import ScriptGate.Text.Regex.Parse
import ScriptGate.Text.Regex.Match

/-!
# Compiling a pattern

Turns the terms of a pattern into codes, applying the flags in force at each
term.

* A character compares exactly, unless case is ignored and it has case; then
  the character read is lowered first, of Unicode or of ASCII as the flags
  say, and compared with the lowered pattern character and the other letters
  with its upper case (`sameCase`).
* A class under ignored case is gathered as the reader of classes gathers it:
  every member of the Basic Multilingual Plane lowered, with the letters of
  the same upper case, into one table; a member beyond the plane kept as it
  is, a range of them matching a lowered character or its upper case.  Only a
  class with a member that has case lowers the character read; the others
  compare it as it is.
* `^` and `$` hold at lines under the multiline flag, `\b` and `\B` use the
  words of Unicode or of ASCII, `.` takes a newline under the dot-all flag.
* A capturing group marks where it opens and where it closes.
* A look behind must have a fixed width, which is how far back it starts.
* A template may not repeat.
-/

namespace ScriptGate.Regex

/-- The farthest a look behind may start back. -/
def maxBack : Nat := 4294967295

/-- The code of one character or its complement, under the flags. -/
def literalCode (flags : Flags) (negated : Bool) (c : Nat) : Code :=
  if !flags.ignoreCase then .char .exact ⟨negated, [.code c]⟩
  else if flags.unicode then
    if unicodeIsCased c then
      let lo := unicodeLower c
      .char .unicode ⟨negated, (lo :: sameCase lo).map .code⟩
    else .char .exact ⟨negated, [.code c]⟩
  else if asciiIsCased c then .char .ascii ⟨negated, [.code (asciiLower c)]⟩
  else .char .exact ⟨negated, [.code c]⟩

/-- A member of a class as it is. -/
def plainItem (unicode : Bool) : Member → Item
  | .char c => .code c
  | .range lo hi => .range lo hi
  | .category k negated => .category k negated unicode

/-- The code points set in a table, as sorted, disjoint ranges. -/
def rangesOf (map : Array Bool) : Array (Nat × Nat) :=
  let step (st : Array (Nat × Nat) × Option Nat) (i : Nat) : Array (Nat × Nat) × Option Nat :=
    match map[i]?.getD false, st.2 with
    | true, none => (st.1, some i)
    | true, some s => (st.1, some s)
    | false, some s => (st.1.push (s, i - 1), none)
    | false, none => (st.1, none)
  let (out, start) := (List.range map.size).foldl step (#[], none)
  match start with
  | some s => out.push (s, map.size - 1)
  | none => out

/-- A class being gathered under ignored case: the table of the lowered members of the
Basic Multilingual Plane, the members kept apart, and whether a member has case. -/
structure Gathered where
  /-- The lowered members of the plane. -/
  map : Array Bool
  /-- The members kept apart. -/
  tail : List Item := []
  /-- Whether a member has case. -/
  cased : Bool := false

/-- The lower case of a code point under the flags. -/
def lowerUnder (flags : Flags) (c : Nat) : Nat :=
  if flags.unicode then unicodeLower c else asciiLower c

/-- Whether a code point has case under the flags. -/
def casedUnder (flags : Flags) (c : Nat) : Bool :=
  if flags.unicode then unicodeIsCased c else asciiIsCased c

/-- The letters of the same upper case as a lowered code point, under the flags. -/
def sameCaseUnder (flags : Flags) (c : Nat) : List Nat :=
  if flags.unicode then sameCase c else []

/-- Puts a lowered code point and its letters of the same upper case in a table. -/
def Gathered.setLowered (flags : Flags) (map : Array Bool) (c : Nat) : Array Bool :=
  let lo := lowerUnder flags c
  (lo :: sameCaseUnder flags lo).foldl (fun m k => m.set! k true) map

/-- Gathers one member of a class under ignored case. -/
def Gathered.add (flags : Flags) (g : Gathered) : Member → Gathered
  | .char c =>
    if lowerUnder flags c < 0x10000 then
      { g with map := Gathered.setLowered flags g.map c, cased := g.cased || casedUnder flags c }
    else { g with tail := g.tail ++ [.code c], cased := true }
  | .range lo hi =>
    let top := min hi 0xFFFF
    let map := (List.range' lo (top + 1 - lo)).foldl (Gathered.setLowered flags) g.map
    if hi < 0x10000 then
      { g with map, cased := g.cased || (List.range' lo (hi + 1 - lo)).any (casedUnder flags) }
    else { g with map, tail := g.tail ++ [.rangeOrUpper lo hi], cased := true }
  | .category k negated => { g with tail := g.tail ++ [.category k negated flags.unicode] }

/-- The code of a class or its complement, under the flags. -/
def setCode (flags : Flags) (negated : Bool) (members : List Member) : Code :=
  let plain : Code := .char .exact ⟨negated, members.map (plainItem flags.unicode)⟩
  if !flags.ignoreCase then plain
  else
    let g := members.foldl (Gathered.add flags) { map := Array.replicate 0x10000 false }
    if g.cased then
      .char (if flags.unicode then .unicode else .ascii) ⟨negated, .table (rangesOf g.map) :: g.tail⟩
    else plain

/-- The place an anchor asks about, under the flags. -/
def spotOf (flags : Flags) : Anchor → Spot
  | .caret => if flags.multiline then .lineStart else .textStart
  | .dollar => if flags.multiline then .lineEnd else .finish
  | .textStart => .textStart
  | .textEnd => .textEnd
  | .edge => .edge flags.unicode
  | .inside => .inside flags.unicode

/-- How a reference compares characters, under the flags. -/
def refFold (flags : Flags) : Fold :=
  if !flags.ignoreCase then .exact else if flags.unicode then .unicode else .ascii

mutual

/-- The codes of a term under the flags; `groupWidth` gives the widths of the groups. -/
def compileTerm (groupWidth : Nat → Nat × Nat) (flags : Flags) : Term → Except Fault (List Code)
  | .char c => pure [literalCode flags false c]
  | .notChar c => pure [literalCode flags true c]
  | .any => pure [.any flags.dotAll]
  | .set negated members => pure [setCode flags negated members]
  | .anchor a => pure [.spot (spotOf flags a)]
  | .branch alternatives => do
    return [.branch (← compileAlternatives groupWidth flags alternatives)]
  | .group index add del body => do
    let inner ← compileTerms groupWidth (flags.within add del) body
    match index with
    | some g => return [.mark (2 * g - 2)] ++ inner ++ [.mark (2 * g - 1)]
    | none => return inner
  | .repeat greed least most body => do
    if flags.template then throw .malformed
    return [.repeat greed least most (← compileTerms groupWidth flags body)]
  | .backref g => pure [.backref (refFold flags) g]
  | .ifGroup g yes no => do
    let y ← compileTerms groupWidth flags yes
    let n ← match no with
      | some n => compileTerms groupWidth flags n
      | none => pure []
    return [.ifGroup g y n]
  | .look behind negated body => do
    let back ← if behind then do
        let (lo, hi) := widthOf groupWidth body
        if lo > maxBack then throw .malformed
        if lo ≠ hi then throw .malformed
        pure lo
      else pure 0
    return [.assert negated back (← compileTerms groupWidth flags body)]
  | .atomic body => do return [.atomic (← compileTerms groupWidth flags body)]

/-- The codes of a sequence under the flags. -/
def compileTerms (groupWidth : Nat → Nat × Nat) (flags : Flags) :
    List Term → Except Fault (List Code)
  | [] => pure []
  | t :: ts => do return (← compileTerm groupWidth flags t) ++ (← compileTerms groupWidth flags ts)

/-- The codes of the alternatives of a choice under the flags. -/
def compileAlternatives (groupWidth : Nat → Nat × Nat) (flags : Flags) :
    List (List Term) → Except Fault (List (List Code))
  | [] => pure []
  | a :: more => do
    return (← compileTerms groupWidth flags a) :: (← compileAlternatives groupWidth flags more)

end

/-! ## The first character -/

/-- Whether a sequence starts with a character the search may look for as it is:
`some true` when its first term, through the groups at its front, is a character
that compares exactly under the flags in force there; `some false` when another
term comes first; `none` when it holds nothing but empty groups. -/
def literalFront (flags : Flags) : List Term → Option Bool
  | [] => none
  | .char c :: _ => some !(flags.ignoreCase && casedUnder flags c)
  | .group _ add del body :: rest =>
    match literalFront (flags.within add del) body with
    | some b => some b
    | none => literalFront flags rest
  | _ :: _ => some false

/-- The class that starts a sequence, through the groups at its front, when none of
its members has case under the flags in force there; its members are built under
the flags `whole` of the whole pattern, so a class by property inside a group that
changes whose classes hold is still the class of the whole pattern. -/
def frontClass (whole flags : Flags) : List Term → Option CharClass
  | .group _ add del body :: _ => frontClass whole (flags.within add del) body
  | .set negated members :: _ =>
    let cased (m : Member) : Bool := match m with
      | .char c => casedUnder flags c
      | .range lo hi => hi > 0xFFFF || (List.range' lo (hi + 1 - lo)).any (casedUnder flags)
      | .category .. => false
    if flags.ignoreCase && members.any cased then none
    else some ⟨negated, members.map (plainItem whole.unicode)⟩
  | _ => none

/-- The class the search checks the character at a position against before it tries
a match there, for a pattern of `terms` under the flags of the whole pattern: when
every match takes a character and the pattern does not start with a character to
look for, the class it starts with.  The check and the match agree but for a class
by property inside a group that changes whose classes hold: the check then holds
the character to the classes of the whole pattern. -/
def leadOf (groupWidth : Nat → Nat × Nat) (flags : Flags) (terms : List Term) :
    Option CharClass :=
  if (widthOf groupWidth terms).1 == 0 then none
  else if literalFront flags terms == some true then none
  else frontClass flags flags terms

end ScriptGate.Regex
