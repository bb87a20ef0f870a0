import Mathlib.Data.Nat.Digits.Defs
import ScriptGate.Syntax.Numeral

/-!
# Integer literals read as their exact values

The numeric literals of a script that stand for integers follow a grammar of their own
(`IntegerLiteral`):

* a decimal integer, `0` or digits that do not start with `0`, with a separator `_` allowed
  between two digits: `1_000`;
* `0x`, `0o` or `0b`, the letter in either case, and digits of that base, with separators:
  `0XAB_CD`;
* a legacy octal integer, `0` and octal digits: `0777`;
* a decimal integer with a leading zero and an `8` or a `9` among its digits: `08`, `0789`;
* a BigInt, a decimal or prefixed integer of the first two forms followed by `n`.

Each has a mathematical value, the value of its digits in its base (`IntegerLiteral.value`),
with `a` to `f` in either case standing for 10 to 15.

Reading a literal's text (`Numeral.read?`) gives that value, and for a BigInt also its decimal
digits, exactly when every conversion to or from decimal digits fits the limit
`Numeral.digitLimit`: the literal's digits when it is read in base 10, and the value of a BigInt,
whose digits are printed (`IntegerLiteral.fitsLimit`, `read?_integerLiteral`).  A literal beyond the
limit has no value at all: a decimal of 4301 ones is refused (`manyOnes_unread`).

The proof follows the reading step by step on the text of each form: separators are dropped
(`IntegerLiteral.Body.filter_text`), nothing of the text is a blank, a sign or a digit of another
script (`Numeral.asciiDigits_eq_self`, `Numeral.trimBlanks_eq_self`), the choice of branch
looks at the prefix and the first digit, and the digits are read by a fold that computes their
value (`Numeral.digitsIn_eq_some`).
-/

namespace ScriptGate

/-! ## The value of digits -/

namespace IntegerLiteral

/-- The value of a digit up to base 16: `0` to `9` (code points 0x30 to 0x39), then `a` to `f`
(0x61 to 0x66) or `A` to `F` (0x41 to 0x46) for 10 to 15. -/
def digitValue (c : Char) : Option Nat :=
  let n := c.toNat
  if 0x30 ≤ n ∧ n ≤ 0x39 then some (n - 0x30)
  else if 0x61 ≤ n ∧ n ≤ 0x66 then some (n - 0x61 + 10)
  else if 0x41 ≤ n ∧ n ≤ 0x46 then some (n - 0x41 + 10)
  else none

/-- Whether a character is a digit of a base. -/
def isDigitOf (base : Nat) (c : Char) : Bool :=
  match digitValue c with
  | some v => v < base
  | none => false

/-- The value of digits in a base, the first digit the most significant. -/
def valueIn (base : Nat) (cs : List Char) : Nat :=
  Nat.ofDigits base (cs.reverse.map fun c => (digitValue c).getD 0)

/-- A digit in front is worth its value times the base to the number of digits after it. -/
theorem valueIn_cons (base : Nat) (c : Char) (cs : List Char) :
    valueIn base (c :: cs) = valueIn base cs + base ^ cs.length * (digitValue c).getD 0 := by
  simp [valueIn, Nat.ofDigits_append, Nat.ofDigits_singleton]

/-- A leading zero adds nothing. -/
theorem valueIn_zero_cons (base : Nat) (cs : List Char) : valueIn base ('0' :: cs) = valueIn base cs := by
  rw [valueIn_cons, show (digitValue '0').getD 0 = 0 by decide, Nat.mul_zero, Nat.add_zero]

/-- A digit of a base up to 16 has a code point between `0` and `f`. -/
theorem toNat_of_isDigitOf {base : Nat} {c : Char} (h : isDigitOf base c = true) :
    0x30 ≤ c.toNat ∧ c.toNat ≤ 0x66 := by
  unfold isDigitOf digitValue at h
  split at h
  · next v hv =>
    dsimp only at hv
    split at hv
    · omega
    · split at hv
      · omega
      · split at hv
        · omega
        · cases hv
  · cases h

end IntegerLiteral

/-! ## Reading digits -/

namespace Numeral

open IntegerLiteral

/-- A character between `0` and the end of ASCII is no digit of another script: the first digits
after the ASCII ones, the Arabic-Indic, start at U+0660. -/
theorem asciiDigits_eq_self {cs : List Char} (h : ∀ c ∈ cs, 0x30 ≤ c.toNat ∧ c.toNat < 0x80) :
    Unicode.asciiDigits cs = cs := by
  have hzeros : ∀ z ∈ Unicode.decimalZeros.toList.tail, 0x660 ≤ z := by decide
  unfold Unicode.asciiDigits
  conv_rhs => rw [← List.map_id cs]
  apply List.map_congr_left
  intro c hc
  have hlow := h c hc
  -- only the ASCII zero can start the run of digits that `c` lies in
  have hvalue : Unicode.decimalValue? c =
      if 0x30 ≤ c.toNat ∧ c.toNat < 0x30 + 10 then some (c.toNat - 0x30) else none := by
    unfold Unicode.decimalValue?
    rw [← Array.findSome?_toList, show Unicode.decimalZeros.toList =
      0x30 :: Unicode.decimalZeros.toList.tail from rfl, List.findSome?_cons]
    split
    · next v hv => exact hv.symm
    · next hnone =>
      rw [hnone, List.findSome?_eq_none_iff]
      intro z hz
      have := hzeros z hz
      rw [if_neg (by omega)]
  rw [hvalue]
  by_cases hdigit : 0x30 ≤ c.toNat ∧ c.toNat < 0x30 + 10
  · rw [if_pos hdigit]
    dsimp only
    rw [show 0x30 + (c.toNat - 0x30) = c.toNat by omega, Char.ofNat_toNat]
    rfl
  · rw [if_neg hdigit]
    rfl

/-- No character between `0` and the end of ASCII is a blank. -/
theorem trimBlanks_eq_self {cs : List Char} (h : ∀ c ∈ cs, 0x30 ≤ c.toNat ∧ c.toNat < 0x80) :
    trimBlanks cs = cs := by
  have hnot : ∀ c ∈ cs, isBlank c = false := by
    intro c hc
    have := h c hc
    unfold isBlank Chars.isWhiteSpace
    simp only [decide_eq_false_iff_not]
    omega
  have hdrop : ∀ ds : List Char, (∀ c ∈ ds, isBlank c = false) → ds.dropWhile isBlank = ds := by
    intro ds hds
    cases ds with
    | nil => rfl
    | cons d ds => rw [List.dropWhile_cons, if_neg (by simp [hds d List.mem_cons_self])]
  unfold trimBlanks
  rw [hdrop cs hnot, hdrop cs.reverse (fun c hc => hnot c (List.mem_reverse.1 hc)),
    List.reverse_reverse]

/-- The reading of one digit is its value. -/
theorem digitIn_eq {base : Nat} {c : Char} (h : isDigitOf base c = true) :
    digitIn base c = digitValue c := by
  unfold isDigitOf at h
  unfold digitIn
  unfold digitValue at h ⊢
  dsimp only at h ⊢
  by_cases h1 : 0x30 ≤ c.toNat ∧ c.toNat ≤ 0x39
  · rw [if_pos h1] at h ⊢
    rw [if_pos h1, if_pos (by simpa using h)]
  · by_cases h2 : 0x61 ≤ c.toNat ∧ c.toNat ≤ 0x66
    · rw [if_neg h1, if_pos h2] at h ⊢
      rw [if_neg h1, if_pos (show 0x61 ≤ c.toNat ∧ c.toNat ≤ 0x7A by omega),
        if_pos (by simpa using h)]
    · by_cases h3 : 0x41 ≤ c.toNat ∧ c.toNat ≤ 0x46
      · rw [if_neg h1, if_neg h2, if_pos h3] at h ⊢
        rw [if_neg h1, if_neg (show ¬(0x61 ≤ c.toNat ∧ c.toNat ≤ 0x7A) by omega),
          if_pos (show 0x41 ≤ c.toNat ∧ c.toNat ≤ 0x5A by omega), if_pos (by simpa using h)]
      · rw [if_neg h1, if_neg h2, if_neg h3] at h
        cases h

/-- Reading digits of a base folds their values into the value of them all. -/
theorem foldl_digitIn {base : Nat} :
    ∀ {cs : List Char} (a : Nat), (∀ c ∈ cs, isDigitOf base c = true) →
      cs.foldl (fun acc c => do let a ← acc; let v ← digitIn base c; pure (base * a + v)) (some a) =
        some (a * base ^ cs.length + valueIn base cs)
  | [], a, _ => by simp [valueIn]
  | c :: cs, a, h => by
    have hc := h c List.mem_cons_self
    obtain ⟨v, hv⟩ : ∃ v, digitValue c = some v := by
      unfold isDigitOf at hc
      split at hc
      · next v hv => exact ⟨v, hv⟩
      · cases hc
    have hstep : (do let a ← some a; let v ← digitIn base c; pure (base * a + v) : Option Nat) =
        some (base * a + v) := by
      rw [digitIn_eq hc, hv]
      rfl
    simp only [List.foldl_cons]
    rw [hstep, foldl_digitIn _ (fun d hd => h d (List.mem_cons_of_mem _ hd)), valueIn_cons, hv]
    simp only [Option.getD_some, List.length_cons, Nat.pow_succ]
    congr 1
    ring

/-- Digits of a base, one or more, read as their value. -/
theorem digitsIn_eq_some {base : Nat} {cs : List Char} (hne : cs ≠ [])
    (h : ∀ c ∈ cs, isDigitOf base c = true) : digitsIn base cs = some (valueIn base cs) := by
  unfold digitsIn
  rw [if_neg (by simpa using hne), foldl_digitIn 0 h, Nat.zero_mul, Nat.zero_add]

end Numeral

namespace IntegerLiteral

/-! ## The grammar -/

/-- Digits of a base written with separators: groups of digits, none of them empty, with one `_`
between two groups. -/
structure Digits (base : Nat) where
  /-- The groups between separators. -/
  groups : List (List Char)
  groups_ne_nil : groups ≠ []
  group_ne_nil : ∀ g ∈ groups, g ≠ []
  digits : ∀ g ∈ groups, ∀ c ∈ g, isDigitOf base c = true

namespace Digits

variable {base : Nat}

/-- The digits without their separators. -/
def chars (d : Digits base) : List Char := d.groups.flatten

/-- The digits as written, groups joined by `_`. -/
def text (d : Digits base) : List Char := ['_'].intercalate d.groups

/-- The value of the digits. -/
def value (d : Digits base) : Nat := valueIn base d.chars

theorem isDigitOf_of_mem_chars (d : Digits base) {c : Char} (h : c ∈ d.chars) :
    isDigitOf base c = true := by
  obtain ⟨g, hg, hc⟩ := List.mem_flatten.1 h
  exact d.digits g hg c hc

theorem chars_ne_nil (d : Digits base) : d.chars ≠ [] := by
  obtain ⟨g, gs, hgs⟩ := List.exists_cons_of_ne_nil d.groups_ne_nil
  have hg : g ≠ [] := d.group_ne_nil g (hgs ▸ List.mem_cons_self)
  simp [chars, hgs, hg]

end Digits

/-- The three prefixed bases. -/
inductive Radix where
  | hex
  | octal
  | binary
deriving DecidableEq, Repr

namespace Radix

/-- The base a prefix stands for. -/
def base : Radix → Nat
  | hex => 16
  | octal => 8
  | binary => 2

/-- The letter of a prefix, upper-case when `upper` is set. -/
def letter : Radix → Bool → Char
  | hex, false => 'x'
  | hex, true => 'X'
  | octal, false => 'o'
  | octal, true => 'O'
  | binary, false => 'b'
  | binary, true => 'B'

end Radix

/-- An integer that may take the BigInt suffix: decimal, or prefixed by its base. -/
inductive Body where
  /-- A decimal integer: `0`, or digits whose first is not `0`. -/
  | decimal (ds : Digits 10) (canonical : ds.chars = ['0'] ∨ ds.chars.head? ≠ some '0')
  /-- `0`, the letter of a base, and digits of that base. -/
  | radix (r : Radix) (upper : Bool) (ds : Digits r.base)

namespace Body

/-- The text of an integer. -/
def text : Body → List Char
  | decimal ds _ => ds.text
  | radix r upper ds => '0' :: r.letter upper :: ds.text

/-- The value of an integer. -/
def value : Body → Nat
  | decimal ds _ => ds.value
  | radix _ _ ds => ds.value

/-- Whether an integer is written in base 10. -/
def isDecimal : Body → Bool
  | decimal .. => true
  | radix .. => false

end Body

end IntegerLiteral

/-- An integer literal of a script. -/
inductive IntegerLiteral where
  /-- A decimal or prefixed integer. -/
  | plain (b : IntegerLiteral.Body)
  /-- A decimal or prefixed integer followed by `n`. -/
  | bigint (b : IntegerLiteral.Body)
  /-- `0` and one or more octal digits, without separators. -/
  | legacyOctal (ds : List Char) (ne_nil : ds ≠ [])
      (octal : ∀ c ∈ ds, IntegerLiteral.isDigitOf 8 c = true)
  /-- `0` and decimal digits, one of them `8` or `9`, without separators. -/
  | nonOctalDecimal (ds : List Char) (decimal : ∀ c ∈ ds, IntegerLiteral.isDigitOf 10 c = true)
      (nonOctal : ∃ c ∈ ds, IntegerLiteral.isDigitOf 8 c = false)

namespace IntegerLiteral

/-- The text of a literal. -/
def text : IntegerLiteral → List Char
  | plain b => b.text
  | bigint b => b.text ++ ['n']
  | legacyOctal ds .. => '0' :: ds
  | nonOctalDecimal ds .. => '0' :: ds

/-- The mathematical value of a literal. -/
def value : IntegerLiteral → Nat
  | plain b | bigint b => b.value
  | legacyOctal ds .. => valueIn 8 ds
  | nonOctalDecimal ds .. => valueIn 10 ds

/-- Whether a literal is a BigInt. -/
def isBigInt : IntegerLiteral → Bool
  | bigint _ => true
  | _ => false

/-- Whether every conversion between the literal and decimal digits fits the limit: its digits,
when it is written in base 10, number at most `Numeral.digitLimit`, and so do the decimal
digits of a BigInt's value. -/
def fitsLimit : IntegerLiteral → Bool
  | plain (.decimal ds _) => ds.chars.length ≤ Numeral.digitLimit
  | plain (.radix ..) => true
  | bigint b => decide (b.value < 10 ^ Numeral.digitLimit)
  | legacyOctal .. => true
  | nonOctalDecimal ds .. => ds.length + 1 ≤ Numeral.digitLimit

/-! ## The characters of a literal -/

theorem isDigitOf_underscore (base : Nat) : isDigitOf base '_' = false := rfl

theorem isDigitOf_n (base : Nat) : isDigitOf base 'n' = false := rfl

/-- A digit of a base up to 10 is one of the first `base` of `0` to `9`. -/
theorem toNat_of_isDigitOf_le_ten {base : Nat} (hbase : base ≤ 10) {c : Char}
    (h : isDigitOf base c = true) : 0x30 ≤ c.toNat ∧ c.toNat < 0x30 + base := by
  unfold isDigitOf at h
  split at h
  · next v hv =>
    simp only [decide_eq_true_eq] at h
    unfold digitValue at hv
    dsimp only at hv
    split at hv
    · cases hv
      omega
    · split at hv
      · cases hv
        omega
      · split at hv
        · cases hv
          omega
        · cases hv
  · cases h

/-- A decimal digit is one of `0` to `9`. -/
theorem toNat_of_isDigitOf_ten {c : Char} (h : isDigitOf 10 c = true) :
    0x30 ≤ c.toNat ∧ c.toNat ≤ 0x39 := by
  have := toNat_of_isDigitOf_le_ten (Nat.le_refl 10) h
  omega

/-- A decimal digit that is not octal is `8` or `9`. -/
theorem toNat_of_not_octal {c : Char} (h : isDigitOf 10 c = true) (hoct : isDigitOf 8 c = false) :
    0x38 ≤ c.toNat := by
  have hdec := toNat_of_isDigitOf_ten h
  unfold isDigitOf digitValue at hoct
  dsimp only at hoct
  rw [if_pos (by omega)] at hoct
  simp only [decide_eq_false_iff_not] at hoct
  omega

/-- A digit of a base is a digit of every larger base. -/
theorem isDigitOf_of_le {b b' : Nat} (hb : b ≤ b') {c : Char} (h : isDigitOf b c = true) :
    isDigitOf b' c = true := by
  unfold isDigitOf at h ⊢
  split at h
  · simp only [decide_eq_true_eq] at h ⊢
    omega
  · cases h

/-- A digit lies between `0` and the end of ASCII. -/
theorem ascii_of_isDigitOf {base : Nat} {c : Char} (h : isDigitOf base c = true) :
    0x30 ≤ c.toNat ∧ c.toNat < 0x80 := by
  have := toNat_of_isDigitOf h
  omega

/-- Digits hold no separator. -/
theorem filter_of_isDigitOf {base : Nat} {cs : List Char} (h : ∀ c ∈ cs, isDigitOf base c = true) :
    cs.filter (fun c => decide (c ≠ '_')) = cs := by
  rw [List.filter_eq_self]
  intro c hc
  simp only [decide_eq_true_eq]
  rintro rfl
  have := h '_' hc
  rw [isDigitOf_underscore] at this
  cases this

/-- An octal digit is one of `0` to `7`. -/
theorem octal_of_isDigitOf {c : Char} (h : isDigitOf 8 c = true) : '0' ≤ c ∧ c ≤ '7' := by
  have := toNat_of_isDigitOf_le_ten (by decide) h
  simp only [Char.le_def, UInt32.le_iff_toNat_le, Char.toNat_val]
  exact ⟨this.1, by simp; omega⟩

/-- A decimal digit that is not octal is past `7`. -/
theorem not_le_seven {c : Char} (h : isDigitOf 10 c = true) (hoct : isDigitOf 8 c = false) :
    ¬c ≤ '7' := by
  have := toNat_of_not_octal h hoct
  simp only [Char.le_def, UInt32.le_iff_toNat_le, Char.toNat_val]
  simp
  omega

namespace Digits

variable {base : Nat}

/-- Dropping the separators of digits as written leaves the digits. -/
theorem filter_text (d : Digits base) : d.text.filter (fun c => decide (c ≠ '_')) = d.chars := by
  have hkeep : ∀ g ∈ d.groups, g.filter (fun c => decide (c ≠ '_')) = g :=
    fun g hg => filter_of_isDigitOf (d.digits g hg)
  unfold text chars
  generalize d.groups = gs at hkeep
  induction gs with
  | nil => rfl
  | cons g gs ih =>
    cases gs with
    | nil => simpa using hkeep g List.mem_cons_self
    | cons g' gs =>
      rw [List.intercalate_cons_cons, List.filter_append, List.filter_append,
        hkeep g List.mem_cons_self, ih (fun h hh => hkeep h (List.mem_cons_of_mem _ hh))]
      simp

end Digits

/-- The characters of an integer without its separators: its prefix and its digits. -/
def Body.chars : Body → List Char
  | .decimal ds _ => ds.chars
  | .radix r upper ds => '0' :: r.letter upper :: ds.chars

theorem Body.filter_text (b : Body) : b.text.filter (fun c => decide (c ≠ '_')) = b.chars := by
  cases b with
  | decimal ds _ => exact ds.filter_text
  | radix r upper ds =>
    have hletter : decide (r.letter upper ≠ '_') = true := by cases r <;> cases upper <;> decide
    rw [Body.text, @List.filter_cons_of_pos _ (fun c => decide (c ≠ '_')) _ _ (by decide),
      @List.filter_cons_of_pos _ (fun c => decide (c ≠ '_')) _ _ hletter, ds.filter_text]
    rfl

end IntegerLiteral

/-! ## Reading the forms of a literal -/

namespace Numeral

open IntegerLiteral

/-- Characters below `A` are their own lower case. -/
theorem toLower_of_lt {c : Char} (h : c.toNat < 0x41) : c.toLower = c := by
  unfold Char.toLower
  rw [dif_neg]
  rintro ⟨hA, -⟩
  have hle := UInt32.le_iff_toNat_le.1 hA
  rw [Char.toNat_val] at hle
  exact absurd hle (by simpa using h)

theorem map_toLower_of_decimal {cs : List Char} (h : ∀ c ∈ cs, isDigitOf 10 c = true) :
    cs.map Char.toLower = cs := by
  conv_rhs => rw [← List.map_id cs]
  apply List.map_congr_left
  intro c hc
  have := toNat_of_isDigitOf_ten (h c hc)
  exact toLower_of_lt (by omega)

/-- A text that starts with a digit has no sign. -/
theorem sign_of_isDigitOf {base : Nat} {c : Char} {cs : List Char} (h : isDigitOf base c = true) :
    sign (c :: cs) = (false, c :: cs) := by
  have := toNat_of_isDigitOf h
  unfold sign
  split
  · next hminus => cases hminus; simp at this
  · next hplus => cases hplus; simp at this
  · rfl

/-- Text not starting with `0` has no base prefix. -/
theorem radixPrefix_of_head? {cs : List Char} (h : cs.head? ≠ some '0') : radixPrefix cs = none := by
  unfold radixPrefix
  split
  · simp at h
  · rfl

/-- `0` followed by a decimal digit is no base prefix. -/
theorem radixPrefix_zero_digit {d : Char} {rest : List Char} (h : isDigitOf 10 d = true) :
    radixPrefix ('0' :: d :: rest) = none := by
  have := toNat_of_isDigitOf_ten h
  unfold radixPrefix
  -- the letters of the prefixes lie past the digits
  have hx : ¬(d = 'x' ∨ d = 'X') := by rintro (rfl | rfl) <;> simp at this
  have ho : ¬(d = 'o' ∨ d = 'O') := by rintro (rfl | rfl) <;> simp at this
  have hb : ¬(d = 'b' ∨ d = 'B') := by rintro (rfl | rfl) <;> simp at this
  simp only [hx, ho, hb, if_false]

theorem radixPrefix_letter (r : Radix) (upper : Bool) (rest : List Char) :
    radixPrefix ('0' :: r.letter upper :: rest) = some (r.base, rest) := by
  cases r <;> cases upper <;> rfl

/-- The lower case of a prefix's letter is its lower-case letter. -/
theorem toLower_letter (r : Radix) (upper : Bool) : (r.letter upper).toLower = r.letter false := by
  cases r <;> cases upper <;> decide

/-- Digits of a base, with no blank and no sign, read as their value. -/
theorem integer?_eq {base : Nat} {cs : List Char} (hne : cs ≠ [])
    (h : ∀ c ∈ cs, isDigitOf base c = true) : integer? base cs = some (valueIn base cs : Int) := by
  have hascii : ∀ c ∈ cs, 0x30 ≤ c.toNat ∧ c.toNat < 0x80 := fun c hc => ascii_of_isDigitOf (h c hc)
  obtain ⟨c, rest, rfl⟩ := List.exists_cons_of_ne_nil hne
  unfold integer?
  rw [asciiDigits_eq_self hascii, trimBlanks_eq_self hascii, sign_of_isDigitOf (h c List.mem_cons_self)]
  dsimp only
  rw [digitsIn_eq_some hne h]
  rfl

/-- Decimal digits are within the limit when there are at most `digitLimit` of them. -/
theorem withinLimit_eq {cs : List Char} (h : ∀ c ∈ cs, isDigitOf 10 c = true) :
    withinLimit cs = decide (cs.length ≤ digitLimit) := by
  have hascii : ∀ c ∈ cs, 0x30 ≤ c.toNat ∧ c.toNat < 0x80 := fun c hc => ascii_of_isDigitOf (h c hc)
  have hdigits : cs.filter Char.isDigit = cs := by
    rw [List.filter_eq_self]
    intro c hc
    have := toNat_of_isDigitOf_ten (h c hc)
    simp only [Char.isDigit, Bool.and_eq_true, decide_eq_true_eq, ge_iff_le,
      UInt32.le_iff_toNat_le, Char.toNat_val]
    exact ⟨this.1, this.2⟩
  unfold withinLimit
  rw [asciiDigits_eq_self hascii, hdigits]

/-- A run of digits does not end in the suffix `n`. -/
theorem getLast?_ne_n {base : Nat} {cs : List Char} (h : ∀ c ∈ cs, isDigitOf base c = true) :
    cs.getLast? ≠ some 'n' := by
  intro hlast
  have := h 'n' (List.mem_of_getLast? hlast)
  rw [isDigitOf_n] at this
  cases this

/-- Decimal digits hold no point and no exponent mark. -/
theorem not_mem_of_decimal {cs : List Char} (h : ∀ c ∈ cs, isDigitOf 10 c = true) {x : Char}
    (hx : x.toNat < 0x30 ∨ 0x39 < x.toNat) : x ∉ cs := by
  intro hmem
  have := toNat_of_isDigitOf_ten (h x hmem)
  omega

theorem read?_plain_decimal (ds : Digits 10) (hcanon : ds.chars = ['0'] ∨ ds.chars.head? ≠ some '0') :
    read? (String.ofList (IntegerLiteral.plain (.decimal ds hcanon)).text) =
      if ds.chars.length ≤ digitLimit then some ⟨.int (ds.value : Int), none⟩ else none := by
  have hdig : ∀ c ∈ ds.chars, isDigitOf 10 c = true := fun c hc => ds.isDigitOf_of_mem_chars hc
  unfold read?
  simp only [IntegerLiteral.text, Body.text, String.toList_ofList, Digits.filter_text]
  have hprefix : radixPrefix ds.chars = none := by
    rcases hcanon with h | h
    · rw [h]
      rfl
    · exact radixPrefix_of_head? h
  have hpoint : '.' ∉ ds.chars := not_mem_of_decimal hdig (by decide)
  have hexp : 'e' ∉ ds.chars := not_mem_of_decimal hdig (by decide)
  -- a decimal that starts with `0` is `0` alone
  have hlead : ¬(ds.chars.length > 1 ∧ ds.chars.head? = some '0') := by
    rintro ⟨hlong, hzero⟩
    rcases hcanon with h | h
    · rw [h] at hlong
      simp at hlong
    · exact h hzero
  rw [if_neg (getLast?_ne_n hdig), map_toLower_of_decimal hdig, hprefix, if_neg (by simp),
    if_neg (by simp [hpoint, hexp]), if_neg hlead, withinLimit_eq hdig,
    integer?_eq ds.chars_ne_nil hdig]
  simp only [decide_eq_true_eq, Option.map_some]
  rfl

/-- A text that ends in digits does not end in the suffix `n`. -/
theorem getLast?_append_ne_n {base : Nat} {pre cs : List Char} (hne : cs ≠ [])
    (h : ∀ c ∈ cs, isDigitOf base c = true) : (pre ++ cs).getLast? ≠ some 'n' := by
  rw [List.getLast?_append]
  obtain ⟨x, hx⟩ := Option.isSome_iff_exists.1 (List.getLast?_isSome.2 hne)
  rw [hx, Option.some_or, ← hx]
  exact getLast?_ne_n h

/-- An integer prints within the limit exactly when it is below `10 ^ digitLimit`. -/
theorem printable_natCast (n : Nat) : printable (n : Int) = decide (n < 10 ^ digitLimit) := by
  unfold printable
  rw [Int.natAbs_natCast, show toString n = n.repr from rfl]
  exact decide_eq_decide.2 (Nat.length_repr_le_iff (by decide))

theorem ascii_letter (r : Radix) (upper : Bool) :
    0x30 ≤ (r.letter upper).toNat ∧ (r.letter upper).toNat < 0x80 := by
  cases r <;> cases upper <;> decide

/-- A prefixed integer is read in its base. -/
theorem constant?_radix (r : Radix) (upper : Bool) (ds : Digits r.base) :
    constant? ('0' :: r.letter upper :: ds.chars) = some (ds.value : Int) := by
  have hdig : ∀ c ∈ ds.chars, isDigitOf r.base c = true := fun c hc => ds.isDigitOf_of_mem_chars hc
  have hascii : ∀ c ∈ '0' :: r.letter upper :: ds.chars, 0x30 ≤ c.toNat ∧ c.toNat < 0x80 := by
    intro c hc
    rcases List.mem_cons.1 hc with rfl | hc
    · decide
    rcases List.mem_cons.1 hc with rfl | hc
    · exact ascii_letter r upper
    · exact ascii_of_isDigitOf (hdig c hc)
  unfold constant?
  rw [asciiDigits_eq_self hascii, trimBlanks_eq_self hascii,
    sign_of_isDigitOf (show isDigitOf 10 '0' = true by decide)]
  dsimp only
  rw [radixPrefix_letter]
  dsimp only
  rw [digitsIn_eq_some ds.chars_ne_nil hdig]
  rfl

/-- A decimal integer without a leading zero, or `0` alone, is read in base 10. -/
theorem constant?_decimal (ds : Digits 10) (hcanon : ds.chars = ['0'] ∨ ds.chars.head? ≠ some '0') :
    constant? ds.chars = some (ds.value : Int) := by
  have hdig : ∀ c ∈ ds.chars, isDigitOf 10 c = true := fun c hc => ds.isDigitOf_of_mem_chars hc
  have hascii : ∀ c ∈ ds.chars, 0x30 ≤ c.toNat ∧ c.toNat < 0x80 :=
    fun c hc => ascii_of_isDigitOf (hdig c hc)
  rcases hcanon with hzero | hhead
  · rw [Digits.value, hzero]
    rfl
  · obtain ⟨c, rest, hcs⟩ := List.exists_cons_of_ne_nil ds.chars_ne_nil
    unfold constant?
    rw [asciiDigits_eq_self hascii, trimBlanks_eq_self hascii, hcs,
      sign_of_isDigitOf (hdig c (hcs ▸ List.mem_cons_self))]
    dsimp only
    rw [← hcs, radixPrefix_of_head? hhead]
    dsimp only
    split
    · next hzero => rw [hzero] at hhead; simp at hhead
    · rw [digitsIn_eq_some ds.chars_ne_nil hdig]
      rfl

/-- Decimal digits without a leading zero are no more than the digits of their value. -/
theorem length_le_of_value_lt (ds : Digits 10) (hcanon : ds.chars = ['0'] ∨ ds.chars.head? ≠ some '0')
    {k : Nat} (hk : 0 < k) (hvalue : ds.value < 10 ^ k) : ds.chars.length ≤ k := by
  rcases hcanon with hzero | hhead
  · rw [hzero]
    exact hk
  · obtain ⟨c, rest, hcs⟩ := List.exists_cons_of_ne_nil ds.chars_ne_nil
    have hc := toNat_of_isDigitOf_ten (ds.isDigitOf_of_mem_chars (hcs ▸ List.mem_cons_self))
    have hnz : c ≠ '0' := fun h => hhead (by rw [hcs, h]; rfl)
    -- the leading digit is at least 1, so the value reaches `10 ^ rest.length`
    have hlead : 1 ≤ (digitValue c).getD 0 := by
      have hne : c.toNat ≠ 0x30 := fun h => hnz (by rw [← Char.ofNat_toNat c, h])
      unfold digitValue
      dsimp only
      rw [if_pos ⟨hc.1, hc.2⟩]
      simp only [Option.getD_some]
      omega
    have hpow : 10 ^ rest.length ≤ ds.value := by
      rw [Digits.value, hcs, valueIn_cons]
      calc 10 ^ rest.length = 10 ^ rest.length * 1 := (Nat.mul_one _).symm
        _ ≤ 10 ^ rest.length * (digitValue c).getD 0 := Nat.mul_le_mul_left _ hlead
        _ ≤ valueIn 10 rest + 10 ^ rest.length * (digitValue c).getD 0 := Nat.le_add_left _ _
    have hlt : rest.length < k := (Nat.pow_lt_pow_iff_right (by decide)).1 (Nat.lt_of_le_of_lt hpow hvalue)
    rw [hcs, List.length_cons]
    omega

theorem read?_plain_radix (r : Radix) (upper : Bool) (ds : Digits r.base) :
    read? (String.ofList (IntegerLiteral.plain (.radix r upper ds)).text) =
      some ⟨.int (ds.value : Int), none⟩ := by
  have hdig : ∀ c ∈ ds.chars, isDigitOf r.base c = true := fun c hc => ds.isDigitOf_of_mem_chars hc
  unfold read?
  simp only [IntegerLiteral.text, String.toList_ofList, Body.filter_text, Body.chars]
  have hlast : (['0', r.letter upper] ++ ds.chars).getLast? ≠ some 'n' :=
    getLast?_append_ne_n ds.chars_ne_nil hdig
  have hlower : ('0' :: r.letter upper :: ds.chars).map Char.toLower =
      '0' :: r.letter false :: ds.chars.map Char.toLower := by
    rw [List.map_cons, List.map_cons, toLower_letter]
    rfl
  rw [List.cons_append, List.cons_append, List.nil_append] at hlast
  rw [if_neg hlast, hlower, radixPrefix_letter, Option.isSome_some, if_pos rfl, constant?_radix]
  rfl

/-- A decimal integer without a leading zero, or `0` alone, has no base prefix. -/
theorem radixPrefix_decimal {ds : Digits 10} (hcanon : ds.chars = ['0'] ∨ ds.chars.head? ≠ some '0') :
    radixPrefix ds.chars = none := by
  rcases hcanon with h | h
  · rw [h]
    rfl
  · exact radixPrefix_of_head? h

/-- The characters of an integer, with no blank and no sign. -/
theorem sign_trimBlanks_chars (b : Body) : sign (trimBlanks b.chars) = (false, b.chars) := by
  cases b with
  | decimal ds _ =>
    have hdig : ∀ c ∈ ds.chars, isDigitOf 10 c = true := fun c hc => ds.isDigitOf_of_mem_chars hc
    obtain ⟨c, rest, hcs⟩ := List.exists_cons_of_ne_nil ds.chars_ne_nil
    rw [Body.chars, trimBlanks_eq_self (fun c hc => ascii_of_isDigitOf (hdig c hc)), hcs,
      sign_of_isDigitOf (hdig c (hcs ▸ List.mem_cons_self))]
  | radix r upper ds =>
    have hascii : ∀ c ∈ '0' :: r.letter upper :: ds.chars, 0x30 ≤ c.toNat ∧ c.toNat < 0x80 := by
      intro c hc
      rcases List.mem_cons.1 hc with rfl | hc
      · decide
      rcases List.mem_cons.1 hc with rfl | hc
      · exact ascii_letter r upper
      · exact ascii_of_isDigitOf (ds.isDigitOf_of_mem_chars hc)
    rw [Body.chars, trimBlanks_eq_self hascii,
      sign_of_isDigitOf (show isDigitOf 10 '0' = true by decide)]

theorem read?_bigint (b : Body) :
    read? (String.ofList (IntegerLiteral.bigint b).text) =
      if b.value < 10 ^ digitLimit then
        some ⟨.int (b.value : Int), some (toString (b.value : Int))⟩
      else none := by
  unfold read?
  simp only [IntegerLiteral.text, String.toList_ofList, List.filter_append, Body.filter_text]
  rw [show (['n'].filter fun c => decide (c ≠ '_')) = ['n'] by decide, if_pos List.getLast?_concat,
    List.dropLast_concat, sign_trimBlanks_chars]
  dsimp only
  cases b with
  | decimal ds hcanon =>
    have hdig : ∀ c ∈ ds.chars, isDigitOf 10 c = true := fun c hc => ds.isDigitOf_of_mem_chars hc
    simp only [Body.chars, Body.value, map_toLower_of_decimal hdig, radixPrefix_decimal hcanon,
      withinLimit_eq hdig, constant?_decimal ds hcanon, printable_natCast]
    -- a value within the limit has at most as many digits as the limit allows
    by_cases hvalue : ds.value < 10 ^ digitLimit
    · have hlen := length_le_of_value_lt ds hcanon (by decide) hvalue
      simp [hvalue, hlen]
    · simp [hvalue]
  | radix r upper ds =>
    simp only [Body.chars, Body.value, List.map_cons, toLower_letter,
      show Char.toLower '0' = '0' by decide, radixPrefix_letter, constant?_radix, printable_natCast]
    simp

/-- `0` and more decimal digits: read in base 8 when every digit is octal, and in base 10
otherwise. -/
theorem read?_zero_digits {ds : List Char} (hne : ds ≠ []) (hdig : ∀ c ∈ ds, isDigitOf 10 c = true) :
    read? (String.ofList ('0' :: ds)) =
      if ('0' :: ds).all (fun c => '0' ≤ c ∧ c ≤ '7') then
        (integer? 8 ('0' :: ds)).map fun v => ⟨.int v, none⟩
      else if withinLimit ('0' :: ds) then (integer? 10 ('0' :: ds)).map fun v => ⟨.int v, none⟩
      else none := by
  have hdig' : ∀ c ∈ '0' :: ds, isDigitOf 10 c = true := by
    intro c hc
    rcases List.mem_cons.1 hc with rfl | hc
    · rfl
    · exact hdig c hc
  have hpoint : '.' ∉ '0' :: ds := not_mem_of_decimal hdig' (by decide)
  have hexp : 'e' ∉ '0' :: ds := not_mem_of_decimal hdig' (by decide)
  obtain ⟨d, rest, rfl⟩ := List.exists_cons_of_ne_nil hne
  unfold read?
  rw [String.toList_ofList, filter_of_isDigitOf hdig', if_neg (getLast?_ne_n hdig'),
    map_toLower_of_decimal hdig']
  dsimp only
  rw [radixPrefix_zero_digit (hdig d List.mem_cons_self), Option.isSome_none, if_neg (by simp),
    if_neg (by simp [hpoint, hexp]), if_pos ⟨by simp, rfl⟩]

theorem read?_legacyOctal (ds : List Char) (hne : ds ≠ []) (hoct : ∀ c ∈ ds, isDigitOf 8 c = true) :
    read? (String.ofList (IntegerLiteral.legacyOctal ds hne hoct).text) =
      some ⟨.int (valueIn 8 ds : Int), none⟩ := by
  have hoct' : ∀ c ∈ '0' :: ds, isDigitOf 8 c = true := by
    intro c hc
    rcases List.mem_cons.1 hc with rfl | hc
    · rfl
    · exact hoct c hc
  have hall : ('0' :: ds).all (fun c => '0' ≤ c ∧ c ≤ '7') = true :=
    List.all_eq_true.2 fun c hc => decide_eq_true (octal_of_isDigitOf (hoct' c hc))
  rw [IntegerLiteral.text, read?_zero_digits hne (fun c hc => isDigitOf_of_le (by decide) (hoct c hc)),
    if_pos hall, integer?_eq (List.cons_ne_nil _ _) hoct', valueIn_zero_cons]
  rfl

theorem read?_nonOctalDecimal (ds : List Char) (hdig : ∀ c ∈ ds, isDigitOf 10 c = true)
    (hnon : ∃ c ∈ ds, isDigitOf 8 c = false) :
    read? (String.ofList (IntegerLiteral.nonOctalDecimal ds hdig hnon).text) =
      if ds.length + 1 ≤ digitLimit then some ⟨.int (valueIn 10 ds : Int), none⟩ else none := by
  obtain ⟨c, hc, hcoct⟩ := hnon
  have hne : ds ≠ [] := List.ne_nil_of_mem hc
  have hdig' : ∀ c ∈ '0' :: ds, isDigitOf 10 c = true := by
    intro c hc
    rcases List.mem_cons.1 hc with rfl | hc
    · rfl
    · exact hdig c hc
  -- the digit `8` or `9` makes the text decimal
  have hall : ¬('0' :: ds).all (fun c => '0' ≤ c ∧ c ≤ '7') = true := by
    rw [List.all_eq_true]
    intro h
    exact not_le_seven (hdig c hc) hcoct (of_decide_eq_true (h c (List.mem_cons_of_mem _ hc))).2
  rw [IntegerLiteral.text, read?_zero_digits hne hdig, if_neg hall, withinLimit_eq hdig',
    integer?_eq (List.cons_ne_nil _ _) hdig', valueIn_zero_cons, List.length_cons]
  simp only [decide_eq_true_eq, Option.map_some]

/-- Every integer literal reads as its value, with the decimal digits of a BigInt, exactly when
its conversions fit the digit limit; beyond it the literal has no value. -/
theorem read?_integerLiteral (l : IntegerLiteral) :
    read? (String.ofList l.text) =
      if l.fitsLimit then
        some ⟨.int (l.value : Int), if l.isBigInt then some (toString (l.value : Int)) else none⟩
      else none := by
  cases l with
  | plain b =>
    cases b with
    | decimal ds hcanon =>
      rw [read?_plain_decimal]
      simp [IntegerLiteral.fitsLimit, IntegerLiteral.value, IntegerLiteral.isBigInt, Body.value]
    | radix r upper ds =>
      rw [read?_plain_radix]
      rfl
  | bigint b =>
    rw [read?_bigint]
    simp [IntegerLiteral.fitsLimit, IntegerLiteral.value, IntegerLiteral.isBigInt]
  | legacyOctal ds hne hoct =>
    rw [read?_legacyOctal]
    rfl
  | nonOctalDecimal ds hdig hnon =>
    rw [read?_nonOctalDecimal]
    simp [IntegerLiteral.fitsLimit, IntegerLiteral.value, IntegerLiteral.isBigInt]

end Numeral

namespace IntegerLiteral

/-- The digits of `manyOnes`: `1` written one time more than the limit allows. -/
def manyOnesDigits : Digits 10 where
  groups := [List.replicate (Numeral.digitLimit + 1) '1']
  groups_ne_nil := List.cons_ne_nil _ _
  group_ne_nil := by
    intro g hg
    rw [List.mem_singleton.1 hg]
    exact List.replicate_succ_ne_nil
  digits := by
    intro g hg c hc
    rw [List.mem_singleton.1 hg] at hc
    rw [List.eq_of_mem_replicate hc]
    rfl

/-- A decimal integer of 4301 ones. -/
def manyOnes : IntegerLiteral :=
  .plain (.decimal manyOnesDigits (Or.inr (by
    rw [manyOnesDigits, Digits.chars, List.flatten_singleton, List.head?_replicate, if_neg (by decide)]
    decide)))

end IntegerLiteral

/-- A literal of 4301 decimal digits has no value, although its value is an integer. -/
theorem manyOnes_unread : Numeral.read? (String.ofList IntegerLiteral.manyOnes.text) = none := by
  rw [IntegerLiteral.manyOnes, Numeral.read?_plain_decimal, if_neg]
  rw [IntegerLiteral.manyOnesDigits, IntegerLiteral.Digits.chars, List.flatten_singleton,
    List.length_replicate]
  omega

end ScriptGate
