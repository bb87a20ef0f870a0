import ScriptGate.Syntax.Cooking

/-!
# The string value of a string literal

ECMAScript gives every string literal a *string value*: its body read escape by
escape, as UTF-16 code units (the grammar of `StringLiteral`, with the legacy
escapes of its Annex B).  `StringValue` writes that grammar down, one
constructor per production with its lookahead, over a body given as code
points.  `Utf16Decodes` reads code units back as code points: a high surrogate
and the low one after it are one code point, and any other surrogate is
U+FFFD.

Cooking (`Cooking.cook`) reads a legacy octal escape greedily, up to three
digits whatever the first one is.  ECMAScript takes a third digit only after
`0` to `3`, so that `\400` is `\40` followed by `0`; cooking reads it as
U+0100 (`cook_highOctalTriple`).  That is the one place where the two part.  On
a body whose two-digit escapes `\40` to `\77` are never followed by an octal
digit (`StringValue true`), cooking gives the code points of the string value
(`cook_eq_of_stringValue`).

The proof follows cooking's two steps.  `cookUnits` replaces each escape by what
it stands for, as code points and UTF-16 units mixed; written out in UTF-16
(`utf16Units`) they are the string value (`cookUnits_of_stringValue`).
`joinUnits` then reads the mixed list as `Utf16Decodes` reads its UTF-16 form
(`utf16Decodes_joinUnits`), and a list of units has one decoding
(`Utf16Decodes.unique`).
-/

namespace ScriptGate.Cooking

/-! ## The string value, after ECMAScript -/

/-- The UTF-16 code units of a code point: itself below U+10000, else a surrogate pair. -/
def utf16Units (c : Nat) : List Nat :=
  if c < 0x10000 then [c]
  else [0xD800 + (c - 0x10000) / 0x400, 0xDC00 + (c - 0x10000) % 0x400]

/-- Whether a code point is a decimal digit. -/
def isDecimal (c : Nat) : Bool := 0x30 ≤ c ∧ c ≤ 0x39

/-- Whether a code point ends a line: line feed, carriage return, U+2028 or U+2029. -/
def isLineTerminator (c : Nat) : Bool := c = 0x0A ∨ c = 0x0D ∨ c = 0x2028 ∨ c = 0x2029

/-- The code unit a single escape character stands for. -/
def singleEscapeValue : Nat → Option Nat
  | 0x27 => some 0x27 -- '
  | 0x22 => some 0x22 -- "
  | 0x5C => some 0x5C -- \
  | 0x62 => some 0x08 -- b
  | 0x66 => some 0x0C -- f
  | 0x6E => some 0x0A -- n
  | 0x72 => some 0x0D -- r
  | 0x74 => some 0x09 -- t
  | 0x76 => some 0x0B -- v
  | _ => none

/-- The value of a list of hex digits, the first the most significant. -/
def hexMV (ds : List Nat) : Nat := ds.foldl (fun acc d => 16 * acc + (hexValue d).getD 0) 0

/-- The string value of a string literal's body, as UTF-16 code units; a body with a
malformed escape has none.  Each constructor is one production of the grammar.  With
`strict`, a two-digit legacy escape `\40` to `\77` is never followed by an octal digit;
ECMAScript itself (`strict = false`) lets one follow. -/
inductive StringValue (strict : Bool) : List Nat → List Nat → Prop where
  | nil : StringValue strict [] []
  /-- A code point other than a backslash, a line feed or a carriage return stands for
  itself. -/
  | char {c : Nat} {rest units : List Nat} (hc : c < 0x110000) (hback : c ≠ 0x5C)
      (hline : c ≠ 0x0A ∧ c ≠ 0x0D) (h : StringValue strict rest units) :
      StringValue strict (c :: rest) (utf16Units c ++ units)
  /-- `\'`, `\"`, `\\`, `\b`, `\f`, `\n`, `\r`, `\t` and `\v`. -/
  | single {e v : Nat} {rest units : List Nat} (he : singleEscapeValue e = some v)
      (h : StringValue strict rest units) :
      StringValue strict (0x5C :: e :: rest) (v :: units)
  /-- A backslash before a code point that starts no escape and ends no line stands for
  that code point. -/
  | nonEscape {c : Nat} {rest units : List Nat} (hc : c < 0x110000)
      (hsingle : singleEscapeValue c = none) (hdigit : isDecimal c = false)
      (hxu : c ≠ 0x78 ∧ c ≠ 0x75) (hline : isLineTerminator c = false)
      (h : StringValue strict rest units) :
      StringValue strict (0x5C :: c :: rest) (utf16Units c ++ units)
  /-- `\0` before no decimal digit: NUL. -/
  | nul {rest units : List Nat} (hnext : rest.head?.any isDecimal = false)
      (h : StringValue strict rest units) :
      StringValue strict (0x5C :: 0x30 :: rest) (0 :: units)
  /-- `\0` before `8` or `9`, a legacy escape: NUL. -/
  | nulBeforeDecimal {rest units : List Nat} (hnext : rest.head? = some 0x38 ∨ rest.head? = some 0x39)
      (h : StringValue strict rest units) :
      StringValue strict (0x5C :: 0x30 :: rest) (0 :: units)
  /-- `\1` to `\7` before no octal digit. -/
  | octalOne {d : Nat} {rest units : List Nat} (hd : 0x31 ≤ d ∧ d ≤ 0x37)
      (hnext : rest.head?.any isOctal = false) (h : StringValue strict rest units) :
      StringValue strict (0x5C :: d :: rest) ((d - 0x30) :: units)
  /-- `\00` to `\37` before no octal digit. -/
  | octalTwoLow {d₁ d₂ : Nat} {rest units : List Nat} (hd₁ : 0x30 ≤ d₁ ∧ d₁ ≤ 0x33)
      (hd₂ : isOctal d₂ = true) (hnext : rest.head?.any isOctal = false)
      (h : StringValue strict rest units) :
      StringValue strict (0x5C :: d₁ :: d₂ :: rest) ((8 * (d₁ - 0x30) + (d₂ - 0x30)) :: units)
  /-- `\40` to `\77`; under `strict`, before no octal digit. -/
  | octalTwoHigh {d₁ d₂ : Nat} {rest units : List Nat} (hd₁ : 0x34 ≤ d₁ ∧ d₁ ≤ 0x37)
      (hd₂ : isOctal d₂ = true) (hnext : strict = true → rest.head?.any isOctal = false)
      (h : StringValue strict rest units) :
      StringValue strict (0x5C :: d₁ :: d₂ :: rest) ((8 * (d₁ - 0x30) + (d₂ - 0x30)) :: units)
  /-- `\000` to `\377`. -/
  | octalThree {d₁ d₂ d₃ : Nat} {rest units : List Nat} (hd₁ : 0x30 ≤ d₁ ∧ d₁ ≤ 0x33)
      (hd₂ : isOctal d₂ = true) (hd₃ : isOctal d₃ = true) (h : StringValue strict rest units) :
      StringValue strict (0x5C :: d₁ :: d₂ :: d₃ :: rest)
        ((64 * (d₁ - 0x30) + 8 * (d₂ - 0x30) + (d₃ - 0x30)) :: units)
  /-- `\8` and `\9`: the digit. -/
  | nonOctalDecimal {d : Nat} {rest units : List Nat} (hd : d = 0x38 ∨ d = 0x39)
      (h : StringValue strict rest units) :
      StringValue strict (0x5C :: d :: rest) (d :: units)
  /-- `\xHH`: one code unit. -/
  | hex {a b va vb : Nat} {rest units : List Nat} (ha : hexValue a = some va)
      (hb : hexValue b = some vb) (h : StringValue strict rest units) :
      StringValue strict (0x5C :: 0x78 :: a :: b :: rest) ((16 * va + vb) :: units)
  /-- `\uHHHH`: one code unit. -/
  | unicode {a b c d va vb vc vd : Nat} {rest units : List Nat} (ha : hexValue a = some va)
      (hb : hexValue b = some vb) (hc : hexValue c = some vc) (hd : hexValue d = some vd)
      (h : StringValue strict rest units) :
      StringValue strict (0x5C :: 0x75 :: a :: b :: c :: d :: rest)
        ((4096 * va + 256 * vb + 16 * vc + vd) :: units)
  /-- `\u{H…}`: the code point of one or more hex digits, at most U+10FFFF. -/
  | codePoint {ds rest units : List Nat} (hne : ds ≠ []) (hds : ∀ d ∈ ds, (hexValue d).isSome)
      (hv : hexMV ds ≤ 0x10FFFF) (h : StringValue strict rest units) :
      StringValue strict (0x5C :: 0x75 :: 0x7B :: ds ++ 0x7D :: rest) (utf16Units (hexMV ds) ++ units)
  /-- A backslash before a line feed, U+2028 or U+2029 continues the line: nothing. -/
  | continuation {t : Nat} {rest units : List Nat} (ht : t = 0x0A ∨ t = 0x2028 ∨ t = 0x2029)
      (h : StringValue strict rest units) :
      StringValue strict (0x5C :: t :: rest) units
  /-- A backslash before a carriage return with no line feed after it: nothing. -/
  | continuationReturn {rest units : List Nat} (hnext : rest.head? ≠ some 0x0A)
      (h : StringValue strict rest units) :
      StringValue strict (0x5C :: 0x0D :: rest) units
  /-- A backslash before a carriage return and a line feed: nothing. -/
  | continuationReturnFeed {rest units : List Nat} (h : StringValue strict rest units) :
      StringValue strict (0x5C :: 0x0D :: 0x0A :: rest) units

/-- Code units read as code points: a high surrogate and a low one after it are one
code point; every other surrogate is U+FFFD. -/
inductive Utf16Decodes : List Nat → List Char → Prop where
  | nil : Utf16Decodes [] []
  | pair {hi lo : Nat} {rest : List Nat} {cs : List Char} (hhi : 0xD800 ≤ hi ∧ hi ≤ 0xDBFF)
      (hlo : 0xDC00 ≤ lo ∧ lo ≤ 0xDFFF) (h : Utf16Decodes rest cs) :
      Utf16Decodes (hi :: lo :: rest) (Char.ofNat (0x10000 + (hi - 0xD800) * 0x400 + (lo - 0xDC00)) :: cs)
  | scalar {u : Nat} {rest : List Nat} {cs : List Char} (hu : u < 0xD800 ∨ 0xDFFF < u)
      (h : Utf16Decodes rest cs) : Utf16Decodes (u :: rest) (Char.ofNat u :: cs)
  | loneHigh {u : Nat} {rest : List Nat} {cs : List Char} (hu : 0xD800 ≤ u ∧ u ≤ 0xDBFF)
      (hnext : ∀ lo, rest.head? = some lo → ¬ (0xDC00 ≤ lo ∧ lo ≤ 0xDFFF))
      (h : Utf16Decodes rest cs) : Utf16Decodes (u :: rest) ('\uFFFD' :: cs)
  | loneLow {u : Nat} {rest : List Nat} {cs : List Char} (hu : 0xDC00 ≤ u ∧ u ≤ 0xDFFF)
      (h : Utf16Decodes rest cs) : Utf16Decodes (u :: rest) ('\uFFFD' :: cs)

/-! ## Cooking, one escape at a time -/

/-- What an escape stands for and the rest of the body after it. -/
def escapeRead (e : Nat) (more : List Nat) : Except CookError (List Nat × List Nat) :=
  (escape e more).map fun r => (r.1, r.2.1)

theorem cookUnits_cons_of_ne {c : Nat} {rest : List Nat} (hc : c ≠ 0x5C) :
    cookUnits (c :: rest) = (cookUnits rest).map (c :: ·) := by
  rw [cookUnits.eq_def]
  simp [hc]

theorem cookUnits_of_escapeRead {e : Nat} {more rest units : List Nat}
    (h : escapeRead e more = .ok (units, rest)) :
    cookUnits (0x5C :: e :: more) = (cookUnits rest).map (units ++ ·) := by
  rw [cookUnits.eq_def]
  simp only [ne_eq, not_true_eq_false, if_false]
  unfold escapeRead at h
  cases hesc : escape e more with
  | error err => simp [hesc] at h; cases h
  | ok r =>
    obtain ⟨u, r, hr⟩ := r
    simp [hesc, Except.map] at h
    obtain ⟨rfl, rfl⟩ := h
    rfl

/-- Every escape but `u` is read by its first character alone. -/
theorem escapeRead_of_ne_u {e : Nat} {more : List Nat} (hu : e ≠ 0x75) :
    escapeRead e more =
      if e = 0x78 ∧ (more.take 2).length = 2 ∧ (hexNumber (more.take 2)).isSome then
        .ok ([(hexNumber (more.take 2)).getD 0], more.drop 2)
      else if isOctal e then
        .ok ([octalNumber (e :: (more.take 2).takeWhile isOctal)],
          more.drop ((more.take 2).takeWhile isOctal).length)
      else if e = 0x0D ∧ more.head? = some 0x0A then .ok ([], more.drop 1)
      else .ok (singleEscape e, more) := by
  have hne : (e == 0x75) = false := by simpa using hu
  unfold escapeRead escape
  simp only [hne, hu, false_and, if_false]
  split
  · rfl
  · split
    · rfl
    · split <;> rfl

theorem escapeRead_single {e v : Nat} {more : List Nat} (he : singleEscapeValue e = some v) :
    escapeRead e more = .ok ([v], more) := by
  unfold singleEscapeValue at he
  split at he <;> cases he <;> rw [escapeRead_of_ne_u (by decide)] <;>
    simp [isOctal, singleEscape]

theorem singleEscape_of_none {c : Nat} (hs : singleEscapeValue c = none)
    (hline : isLineTerminator c = false) : singleEscape c = [c] := by
  unfold singleEscape
  repeat' split
  all_goals simp_all [singleEscapeValue, isLineTerminator]

theorem escapeRead_nonEscape {c : Nat} {more : List Nat} (hs : singleEscapeValue c = none)
    (hdigit : isDecimal c = false) (hxu : c ≠ 0x78 ∧ c ≠ 0x75)
    (hline : isLineTerminator c = false) : escapeRead c more = .ok ([c], more) := by
  have hoct : isOctal c = false := by
    simp only [isDecimal, isOctal, decide_eq_false_iff_not] at hdigit ⊢
    omega
  have hcr : c ≠ 0x0D := by rintro rfl; simp [isLineTerminator] at hline
  rw [escapeRead_of_ne_u hxu.2, singleEscape_of_none hs hline]
  simp [hxu.1, hoct, hcr]

/-- A line terminator after a backslash stands for nothing; a carriage return before
a line feed takes it along. -/
theorem escapeRead_lineTerminator {t : Nat} {more : List Nat} (ht : isLineTerminator t = true)
    (hcrlf : ¬ (t = 0x0D ∧ more.head? = some 0x0A)) : escapeRead t more = .ok ([], more) := by
  simp only [isLineTerminator, decide_eq_true_eq] at ht
  have hu : t ≠ 0x75 := by omega
  have hoct : isOctal t = false := by simp only [isOctal, decide_eq_false_iff_not]; omega
  rw [escapeRead_of_ne_u hu]
  simp only [hoct, hcrlf, Bool.false_eq_true, if_false, singleEscape]
  rcases ht with rfl | rfl | rfl | rfl <;> simp

theorem escapeRead_returnFeed {rest : List Nat} : escapeRead 0x0D (0x0A :: rest) = .ok ([], rest) := by
  rw [escapeRead_of_ne_u (by decide)]
  simp [isOctal]

/-- A legacy octal escape takes the octal digits after its first, up to two. -/
theorem escapeRead_octal {d : Nat} {more : List Nat} (hd : isOctal d = true) :
    escapeRead d more = .ok ([octalNumber (d :: (more.take 2).takeWhile isOctal)],
      more.drop ((more.take 2).takeWhile isOctal).length) := by
  have hd' : 0x30 ≤ d ∧ d ≤ 0x37 := by simpa [isOctal] using hd
  rw [escapeRead_of_ne_u (by omega)]
  simp [hd, show d ≠ 0x78 by omega]

theorem escapeRead_octal_one {d : Nat} {more : List Nat} (hd : isOctal d = true)
    (hnext : more.head?.any isOctal = false) : escapeRead d more = .ok ([d - 0x30], more) := by
  rw [escapeRead_octal hd]
  cases more with
  | nil => simp [octalNumber]
  | cons x rest =>
    simp only [List.head?_cons, Option.any_some] at hnext
    simp [hnext, octalNumber]

theorem escapeRead_octal_two {d₁ d₂ : Nat} {rest : List Nat} (hd₁ : isOctal d₁ = true)
    (hd₂ : isOctal d₂ = true) (hnext : rest.head?.any isOctal = false) :
    escapeRead d₁ (d₂ :: rest) = .ok ([8 * (d₁ - 0x30) + (d₂ - 0x30)], rest) := by
  rw [escapeRead_octal hd₁]
  cases rest with
  | nil => simp [hd₂, octalNumber]
  | cons x rest =>
    simp only [List.head?_cons, Option.any_some] at hnext
    simp [hd₂, hnext, octalNumber]

theorem escapeRead_octal_three {d₁ d₂ d₃ : Nat} {rest : List Nat} (hd₁ : isOctal d₁ = true)
    (hd₂ : isOctal d₂ = true) (hd₃ : isOctal d₃ = true) :
    escapeRead d₁ (d₂ :: d₃ :: rest) =
      .ok ([64 * (d₁ - 0x30) + 8 * (d₂ - 0x30) + (d₃ - 0x30)], rest) := by
  rw [escapeRead_octal hd₁]
  simp [hd₂, hd₃, octalNumber]
  omega

theorem hexNumber_eq_hexMV {ds : List Nat} (hds : ∀ d ∈ ds, (hexValue d).isSome) :
    hexNumber ds = some (hexMV ds) := by
  -- the fold over `Option` runs as the plain fold when every digit has a value
  suffices h : ∀ acc, ds.foldl (fun acc d => do let a ← acc; let v ← hexValue d; pure (16 * a + v))
      (some acc) = some (ds.foldl (fun acc d => 16 * acc + (hexValue d).getD 0) acc) from h 0
  induction ds with
  | nil => intro acc; rfl
  | cons d ds ih =>
    intro acc
    obtain ⟨v, hv⟩ := Option.isSome_iff_exists.1 (hds d List.mem_cons_self)
    simp only [List.foldl_cons, hv, Option.getD_some]
    exact ih (fun x hx => hds x (List.mem_cons_of_mem d hx)) _

/-- The closing brace after hex digits ends a braced escape. -/
theorem braced_hex {ds : List Nat} (rest : List Nat) (hds : ∀ d ∈ ds, (hexValue d).isSome) :
    ∃ h, braced (ds ++ 0x7D :: rest) = some (ds, ⟨rest, h⟩) := by
  induction ds with
  | nil => exact ⟨by simp, by simp [braced]⟩
  | cons d ds ih =>
    have hd := hds d List.mem_cons_self
    obtain ⟨h, hb⟩ := ih (fun x hx => hds x (List.mem_cons_of_mem d hx))
    have hbrace : d ≠ 0x7D := by rintro rfl; simp [hexValue] at hd
    refine ⟨by simp; omega, ?_⟩
    simp only [List.cons_append, braced, hbrace, if_false, hd, if_true, hb, Option.map_some]

theorem hexValue_lt {c v : Nat} (h : hexValue c = some v) : v < 16 := by
  unfold hexValue at h
  split at h
  · cases h; omega
  · split at h
    · cases h; omega
    · split at h
      · cases h; omega
      · cases h

theorem escapeRead_hex {a b va vb : Nat} {rest : List Nat} (ha : hexValue a = some va)
    (hb : hexValue b = some vb) : escapeRead 0x78 (a :: b :: rest) = .ok ([16 * va + vb], rest) := by
  rw [escapeRead_of_ne_u (by decide)]
  simp [hexNumber, ha, hb]

theorem escapeRead_unicode {a b c d va vb vc vd : Nat} {rest : List Nat}
    (ha : hexValue a = some va) (hb : hexValue b = some vb) (hc : hexValue c = some vc)
    (hd : hexValue d = some vd) :
    escapeRead 0x75 (a :: b :: c :: d :: rest) =
      .ok ([4096 * va + 256 * vb + 16 * vc + vd], rest) := by
  -- a hex digit is no opening brace, so the escape has four digits and no braces
  have hbrace : a ≠ 0x7B := by rintro rfl; simp [hexValue] at ha
  simp only [escapeRead, escape, List.head?_cons, Option.some.injEq, hbrace, if_false]
  simp [hexNumber, ha, hb, hc, hd, Except.map]
  omega

theorem escapeRead_codePoint {ds rest : List Nat} (hne : ds ≠ [])
    (hds : ∀ d ∈ ds, (hexValue d).isSome) (hv : hexMV ds ≤ 0x10FFFF) :
    escapeRead 0x75 (0x7B :: ds ++ 0x7D :: rest) = .ok ([hexMV ds], rest) := by
  obtain ⟨h, hb⟩ := braced_hex rest hds
  unfold escapeRead escape
  -- the braces are read from the text after the opening one
  generalize hB : (if (0x7B :: ds ++ 0x7D :: rest).head? = some 0x7B then
    braced (List.drop 1 (0x7B :: ds ++ 0x7D :: rest)) else none) = B
  have hB' : B = some (ds, ⟨rest, h⟩) := hB ▸ (if_pos rfl).trans hb
  subst hB'
  cases ds with
  | nil => exact absurd rfl hne
  | cons d ds => simp [hexNumber_eq_hexMV hds, Nat.not_lt.2 hv, Except.map]

theorem escapeRead_nonOctalDecimal {d : Nat} {more : List Nat} (hd : d = 0x38 ∨ d = 0x39) :
    escapeRead d more = .ok ([d], more) := by
  rcases hd with rfl | rfl <;>
    (rw [escapeRead_of_ne_u (by decide)]; simp [isOctal, singleEscape])

/-! ## Cooking gives the string value -/

theorem utf16Units_of_lt {c : Nat} (h : c < 0x10000) : utf16Units c = [c] := by
  simp [utf16Units, h]

theorem singleEscapeValue_lt {e v : Nat} (he : singleEscapeValue e = some v) : v < 0x10000 := by
  unfold singleEscapeValue at he
  split at he <;> (cases he; try decide)

/-- Cooking `body` gives code points and UTF-16 units, each below U+110000, that UTF-16
writes as `units`. -/
def CooksTo (body units : List Nat) : Prop :=
  ∃ mixed, cookUnits body = .ok mixed ∧ mixed.flatMap utf16Units = units ∧
    ∀ x ∈ mixed, x < 0x110000

theorem CooksTo.nil : CooksTo [] [] := ⟨[], by rw [cookUnits.eq_def], rfl, by simp⟩

theorem CooksTo.char {c : Nat} {rest units : List Nat} (hc : c ≠ 0x5C) (hlt : c < 0x110000)
    (h : CooksTo rest units) : CooksTo (c :: rest) (utf16Units c ++ units) := by
  obtain ⟨mixed, hcook, hunits, hbound⟩ := h
  refine ⟨c :: mixed, ?_, ?_, ?_⟩
  · rw [cookUnits_cons_of_ne hc, hcook]
    rfl
  · simp [hunits]
  · simpa using ⟨hlt, hbound⟩

/-- An escape that stands for `out` extends what the rest of the body cooks to. -/
theorem CooksTo.escape {e : Nat} {more rest out units : List Nat}
    (he : escapeRead e more = .ok (out, rest)) (hout : ∀ x ∈ out, x < 0x110000)
    (h : CooksTo rest units) : CooksTo (0x5C :: e :: more) (out.flatMap utf16Units ++ units) := by
  obtain ⟨mixed, hcook, hunits, hbound⟩ := h
  refine ⟨out ++ mixed, ?_, ?_, ?_⟩
  · rw [cookUnits_of_escapeRead he, hcook]
    rfl
  · simp [hunits]
  · intro x hx
    rcases List.mem_append.1 hx with hx | hx
    · exact hout x hx
    · exact hbound x hx

/-- An escape that stands for one code unit. -/
theorem CooksTo.unit {e v : Nat} {more rest units : List Nat}
    (he : escapeRead e more = .ok ([v], rest)) (hv : v < 0x10000) (h : CooksTo rest units) :
    CooksTo (0x5C :: e :: more) (v :: units) := by
  have := CooksTo.escape he (by simp; omega) h
  rwa [List.flatMap_singleton, utf16Units_of_lt hv] at this

/-- An escape that stands for nothing. -/
theorem CooksTo.nothing {e : Nat} {more rest units : List Nat}
    (he : escapeRead e more = .ok ([], rest)) (h : CooksTo rest units) :
    CooksTo (0x5C :: e :: more) units := by
  simpa using CooksTo.escape he (by simp) h

theorem not_octal_of_not_decimal {rest : List Nat} (h : rest.head?.any isDecimal = false) :
    rest.head?.any isOctal = false := by
  cases rest with
  | nil => rfl
  | cons x rest =>
    simp only [List.head?_cons, Option.any_some, isDecimal, isOctal, decide_eq_false_iff_not] at h ⊢
    omega

/-- Every escape of a body that has a strict string value is read as the grammar reads
it, so cooking the body gives its string value, in code points and units mixed. -/
theorem cookUnits_of_stringValue {body units : List Nat} (h : StringValue true body units) :
    CooksTo body units := by
  induction h with
  | nil => exact CooksTo.nil
  | char hc hback _ _ ih => exact CooksTo.char hback hc ih
  | single he _ ih => exact CooksTo.unit (escapeRead_single he) (singleEscapeValue_lt he) ih
  | nonEscape hc hsingle hdigit hxu hline _ ih =>
    simpa using CooksTo.escape (escapeRead_nonEscape hsingle hdigit hxu hline) (by simpa using hc) ih
  | nul hnext _ ih =>
    exact CooksTo.unit (escapeRead_octal_one (by decide) (not_octal_of_not_decimal hnext)) (by decide) ih
  | @nulBeforeDecimal rest _ hnext _ ih =>
    have hoct : rest.head?.any isOctal = false := by
      rcases hnext with hnext | hnext <;> simp [hnext, isOctal]
    exact CooksTo.unit (escapeRead_octal_one (by decide) hoct) (by decide) ih
  | octalOne hd hnext _ ih =>
    exact CooksTo.unit (escapeRead_octal_one (by simp [isOctal]; omega) hnext) (by omega) ih
  | @octalTwoLow d₁ _ _ _ hd₁ hd₂ hnext _ ih =>
    have : isOctal d₁ = true := by simp [isOctal]; omega
    exact CooksTo.unit (escapeRead_octal_two this hd₂ hnext) (by simp [isOctal] at hd₂; omega) ih
  | @octalTwoHigh d₁ _ _ _ hd₁ hd₂ hnext _ ih =>
    -- the strict reading keeps an octal digit from following
    have : isOctal d₁ = true := by simp [isOctal]; omega
    exact CooksTo.unit (escapeRead_octal_two this hd₂ (hnext rfl)) (by simp [isOctal] at hd₂; omega) ih
  | @octalThree d₁ _ _ _ _ hd₁ hd₂ hd₃ _ ih =>
    have : isOctal d₁ = true := by simp [isOctal]; omega
    exact CooksTo.unit (escapeRead_octal_three this hd₂ hd₃)
      (by simp [isOctal] at hd₂ hd₃; omega) ih
  | nonOctalDecimal hd _ ih =>
    exact CooksTo.unit (escapeRead_nonOctalDecimal hd) (by omega) ih
  | hex ha hb _ ih =>
    have hva := hexValue_lt ha
    have hvb := hexValue_lt hb
    exact CooksTo.unit (escapeRead_hex ha hb) (by omega) ih
  | unicode ha hb hc hd _ ih =>
    have hva := hexValue_lt ha
    have hvb := hexValue_lt hb
    have hvc := hexValue_lt hc
    have hvd := hexValue_lt hd
    exact CooksTo.unit (escapeRead_unicode ha hb hc hd) (by omega) ih
  | codePoint hne hds hv _ ih =>
    simpa using CooksTo.escape (escapeRead_codePoint hne hds hv) (by simp; omega) ih
  | continuation ht _ ih =>
    refine CooksTo.nothing (escapeRead_lineTerminator ?_ ?_) ih
    · simp only [isLineTerminator, decide_eq_true_eq]; omega
    · omega
  | continuationReturn hnext _ ih =>
    exact CooksTo.nothing (escapeRead_lineTerminator (by decide) (by simpa using hnext)) ih
  | continuationReturnFeed _ ih => exact CooksTo.nothing escapeRead_returnFeed ih

/-! ## Reading the units as code points -/

/-- A list of code units has at most one decoding. -/
theorem Utf16Decodes.unique {units : List Nat} {cs cs' : List Char} (h : Utf16Decodes units cs)
    (h' : Utf16Decodes units cs') : cs = cs' := by
  induction h generalizing cs' with
  | nil => cases h'; rfl
  | pair hhi hlo _ ih =>
    cases h' with
    | pair _ _ h' => rw [ih h']
    | scalar hu => omega
    | loneHigh _ hnext => exact absurd hlo (hnext _ rfl)
    | loneLow hu => omega
  | scalar hu _ ih =>
    cases h' with
    | pair hhi => omega
    | scalar _ h' => rw [ih h']
    | loneHigh hhi => omega
    | loneLow hlo => omega
  | loneHigh hu hnext _ ih =>
    cases h' with
    | pair _ hlo => exact absurd hlo (hnext _ rfl)
    | scalar hs => omega
    | loneHigh _ _ h' => rw [ih h']
    | loneLow hlo => omega
  | loneLow hu _ ih =>
    cases h' with
    | pair hhi => omega
    | scalar hs => omega
    | loneHigh hhi => omega
    | loneLow _ h' => rw [ih h']

/-- A unit below U+10000 reads as what `joinUnits` makes of it alone, unless it is a
high surrogate before a low one. -/
theorem utf16Decodes_cons_unit {u : Nat} {rest : List Nat} {cs : List Char} (hu : u < 0x10000)
    (hnext : 0xD800 ≤ u ∧ u ≤ 0xDBFF → ∀ lo, rest.head? = some lo → ¬ (0xDC00 ≤ lo ∧ lo ≤ 0xDFFF))
    (h : Utf16Decodes rest cs) : Utf16Decodes (u :: rest) (joinUnits.toChar u :: cs) := by
  unfold joinUnits.toChar
  by_cases hsur : 0xD800 ≤ u ∧ u ≤ 0xDFFF
  · rw [if_pos hsur]
    by_cases hhigh : u ≤ 0xDBFF
    · exact .loneHigh ⟨hsur.1, hhigh⟩ (hnext ⟨hsur.1, hhigh⟩) h
    · exact .loneLow ⟨by omega, hsur.2⟩ h
  · rw [if_neg hsur]
    exact .scalar (by omega) h

/-- A code point beyond U+FFFF is written as a surrogate pair, which reads back as it. -/
theorem utf16Decodes_pair_append {u : Nat} {rest : List Nat} {cs : List Char}
    (hu : 0x10000 ≤ u ∧ u < 0x110000) (h : Utf16Decodes rest cs) :
    Utf16Decodes (utf16Units u ++ rest) (Char.ofNat u :: cs) := by
  have hpair := @Utf16Decodes.pair (0xD800 + (u - 0x10000) / 0x400)
    (0xDC00 + (u - 0x10000) % 0x400) rest cs (by omega) (by omega) h
  have hval : 0x10000 + (0xD800 + (u - 0x10000) / 0x400 - 0xD800) * 0x400 +
      (0xDC00 + (u - 0x10000) % 0x400 - 0xDC00) = u := by omega
  rw [hval] at hpair
  simpa [utf16Units, Nat.not_lt.2 hu.1] using hpair

/-- `joinUnits` reads code points and units mixed as their UTF-16 form decodes. -/
theorem utf16Decodes_joinUnits {mixed : List Nat} (h : ∀ x ∈ mixed, x < 0x110000) :
    Utf16Decodes (mixed.flatMap utf16Units) (joinUnits mixed) := by
  fun_induction joinUnits mixed with
  | case1 => exact .nil
  | case2 u =>
    have hu := h u List.mem_cons_self
    by_cases hsmall : u < 0x10000
    · simpa [utf16Units_of_lt hsmall] using
        utf16Decodes_cons_unit hsmall (by simp) Utf16Decodes.nil
    · have hc : joinUnits.toChar u = Char.ofNat u := by simp [joinUnits.toChar]; omega
      simpa [hc] using utf16Decodes_pair_append ⟨by omega, hu⟩ Utf16Decodes.nil
  | case3 u v rest hpair ih =>
    have hrest : ∀ x ∈ rest, x < 0x110000 := fun x hx => h x (by simp [hx])
    simp only [List.flatMap_cons, utf16Units_of_lt (show u < 0x10000 by omega),
      utf16Units_of_lt (show v < 0x10000 by omega), List.singleton_append]
    exact .pair ⟨hpair.1, hpair.2.1⟩ hpair.2.2 (ih hrest)
  | case4 u v rest hnot ih =>
    have hu := h u List.mem_cons_self
    have hv := h v (by simp)
    have htail := ih (fun x hx => h x (List.mem_cons_of_mem u hx))
    rw [List.flatMap_cons]
    by_cases hsmall : u < 0x10000
    · rw [utf16Units_of_lt hsmall, List.singleton_append]
      refine utf16Decodes_cons_unit hsmall ?_ htail
      -- the unit after a high surrogate starts the next code point, and is no low surrogate
      intro hhigh lo hlo
      by_cases hvsmall : v < 0x10000
      · simp [List.flatMap_cons, utf16Units_of_lt hvsmall] at hlo
        omega
      · simp [List.flatMap_cons, utf16Units, hvsmall] at hlo
        omega
    · have hc : joinUnits.toChar u = Char.ofNat u := by simp [joinUnits.toChar]; omega
      rw [hc]
      exact utf16Decodes_pair_append ⟨by omega, hu⟩ htail

/-- Cooking a body whose two-digit escapes from `\40` to `\77` are never followed by an
octal digit gives the code points of its string value. -/
theorem cook_eq_of_stringValue {body units : List Nat} {cs : List Char}
    (h : StringValue true body units) (hd : Utf16Decodes units cs) :
    cook body = .ok (String.ofList cs) := by
  obtain ⟨mixed, hcook, rfl, hbound⟩ := cookUnits_of_stringValue h
  have hjoin := Utf16Decodes.unique (utf16Decodes_joinUnits hbound) hd
  simp [cook, hcook, hjoin, Except.map]

/-- Cooking a body with two octal escapes, a hex one, a surrogate pair written as two
`\u` escapes and a braced code point. -/
theorem cook_escapes_stringValue :
    StringValue true
        [0x5C, 0x31, 0x30, 0x31, 0x5C, 0x37, 0x39, 0x5C, 0x78, 0x34, 0x32,
          0x5C, 0x75, 0x44, 0x38, 0x33, 0x44, 0x5C, 0x75, 0x44, 0x45, 0x30, 0x30,
          0x5C, 0x75, 0x7B, 0x31, 0x46, 0x36, 0x30, 0x30, 0x7D]
        [0x41, 0x07, 0x39, 0x42, 0xD83D, 0xDE00, 0xD83D, 0xDE00] ∧
      Utf16Decodes [0x41, 0x07, 0x39, 0x42, 0xD83D, 0xDE00, 0xD83D, 0xDE00]
        ['A', '\x07', '9', 'B', '😀', '😀'] ∧
      cook [0x5C, 0x31, 0x30, 0x31, 0x5C, 0x37, 0x39, 0x5C, 0x78, 0x34, 0x32,
          0x5C, 0x75, 0x44, 0x38, 0x33, 0x44, 0x5C, 0x75, 0x44, 0x45, 0x30, 0x30,
          0x5C, 0x75, 0x7B, 0x31, 0x46, 0x36, 0x30, 0x30, 0x7D] =
        .ok (String.ofList ['A', '\x07', '9', 'B', '😀', '😀']) := by
  have hsv : StringValue true
      [0x5C, 0x31, 0x30, 0x31, 0x5C, 0x37, 0x39, 0x5C, 0x78, 0x34, 0x32,
        0x5C, 0x75, 0x44, 0x38, 0x33, 0x44, 0x5C, 0x75, 0x44, 0x45, 0x30, 0x30,
        0x5C, 0x75, 0x7B, 0x31, 0x46, 0x36, 0x30, 0x30, 0x7D]
      [0x41, 0x07, 0x39, 0x42, 0xD83D, 0xDE00, 0xD83D, 0xDE00] :=
    .octalThree (by decide) (by decide) (by decide) <|
    .octalOne (by decide) (by decide) <|
    .char (by decide) (by decide) (by decide) <|
    @StringValue.hex true 0x34 0x32 4 2 _ _ rfl rfl <|
    @StringValue.unicode true 0x44 0x38 0x33 0x44 13 8 3 13 _ _ rfl rfl rfl rfl <|
    @StringValue.unicode true 0x44 0x45 0x30 0x30 13 14 0 0 _ _ rfl rfl rfl rfl <|
    @StringValue.codePoint true [0x31, 0x46, 0x36, 0x30, 0x30] [] [] (by decide) (by decide)
      (by decide) .nil
  have hd : Utf16Decodes [0x41, 0x07, 0x39, 0x42, 0xD83D, 0xDE00, 0xD83D, 0xDE00]
      ['A', '\x07', '9', 'B', '😀', '😀'] :=
    .scalar (by decide) <| .scalar (by decide) <| .scalar (by decide) <| .scalar (by decide) <|
    .pair (by decide) (by decide) <| .pair (by decide) (by decide) .nil
  exact ⟨hsv, hd, cook_eq_of_stringValue hsv hd⟩

/-- ECMAScript reads `\400` as `\40` followed by `0`, a space and a zero; cooking reads all
three digits, U+0100. -/
theorem cook_highOctalTriple :
    StringValue false [0x5C, 0x34, 0x30, 0x30] [0x20, 0x30] ∧
      Utf16Decodes [0x20, 0x30] [' ', '0'] ∧
      cook [0x5C, 0x34, 0x30, 0x30] ≠ .ok (String.ofList [' ', '0']) ∧
      cook [0x5C, 0x34, 0x30, 0x30] = .ok "\u0100" := by
  have hcook : cook [0x5C, 0x34, 0x30, 0x30] = .ok "\u0100" := by
    rw [cook, cookUnits_of_escapeRead (escapeRead_octal_three (by decide) (by decide) (by decide)),
      cookUnits.eq_def]
    simp [Except.map, joinUnits, joinUnits.toChar]
  refine ⟨.octalTwoHigh (by decide) (by decide) (by decide) (.char (by decide) (by decide)
    (by decide) .nil), .scalar (by decide) (.scalar (by decide) .nil), ?_, hcook⟩
  rw [hcook]
  intro h
  -- one character against two
  have hlen := congrArg String.length (Except.ok.inj h)
  revert hlen
  decide

end ScriptGate.Cooking
