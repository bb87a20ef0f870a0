import ScriptGate.Text.Regex.Syntax
import ScriptGate.Text.Case

/-!
# Matching compiled expressions

A compiled expression is a list of `Code`s, each with its flags already
applied: how a character is folded before it is compared, which anchors hold
where, how groups are marked.

The matcher backtracks.  `run` matches a list of codes at a cursor and hands
the cursor where they end to a continuation, which says how the rest of the
expression fares; the first success is the answer.  A cursor holds the
position and the *marks*: the positions where groups opened and closed.  A
group has matched when both its marks lie below the highest mark set, the
closing one not before the opening one.

* A choice tries its alternatives in order.
* A repetition counts its rounds.  Below its least count it must go round
  again.  Above it, a greedy repetition tries another round before the rest
  and a lazy one the rest before another round; neither starts another round
  where the last one started, so a round that matches nothing ends it.  A
  possessive repetition goes round while it can, keeping each round's first
  match, and never gives one back.
* An atomic group and a look around keep the first match of their body.  A
  look behind starts its body as many characters back as the body is wide.
* A reference matches the text its group matched, folded as the flags say.

`fuel` bounds the depth of the search: every call spends one.
-/

namespace ScriptGate.Regex

/-! ## Characters -/

/-- Whether a code point is a Unicode scalar value. -/
def isScalar (n : Nat) : Bool := n < 0xD800 || (0xDFFF < n && n < 0x110000)

/-- The lower case of a code point in ASCII. -/
def asciiLower (c : Nat) : Nat := if 'A'.toNat ≤ c && c ≤ 'Z'.toNat then c + 32 else c

/-- Whether a code point has case in ASCII. -/
def asciiIsCased (c : Nat) : Bool := c < 128 && isAsciiLetter c

/-- The lower case of a code point on its own. -/
def unicodeLower (n : Nat) : Nat := if isScalar n then (Case.lowerFirst (Char.ofNat n)).toNat else n

/-- The upper case of a code point on its own. -/
def unicodeUpper (n : Nat) : Nat := if isScalar n then (Case.upperFirst (Char.ofNat n)).toNat else n

/-- Whether a code point has case: its lower or its upper case differs from it. -/
def unicodeIsCased (n : Nat) : Bool := unicodeLower n != n || unicodeUpper n != n

/-- The other lower-case letters a lower-case letter matches when case is ignored:
those with the same upper case. -/
def sameCase (c : Nat) : List Nat :=
  match c with
  | 0x69 => [0x131] | 0x73 => [0x17F] | 0xB5 => [0x3BC] | 0x131 => [0x69] | 0x17F => [0x73]
  | 0x345 => [0x3B9, 0x1FBE] | 0x390 => [0x1FD3] | 0x3B0 => [0x1FE3] | 0x3B2 => [0x3D0]
  | 0x3B5 => [0x3F5] | 0x3B8 => [0x3D1] | 0x3B9 => [0x345, 0x1FBE] | 0x3BA => [0x3F0]
  | 0x3BC => [0xB5] | 0x3C0 => [0x3D6] | 0x3C1 => [0x3F1] | 0x3C2 => [0x3C3]
  | 0x3C3 => [0x3C2] | 0x3C6 => [0x3D5] | 0x3D0 => [0x3B2] | 0x3D1 => [0x3B8]
  | 0x3D5 => [0x3C6] | 0x3D6 => [0x3C0] | 0x3F0 => [0x3BA] | 0x3F1 => [0x3C1]
  | 0x3F5 => [0x3B5] | 0x432 => [0x1C80] | 0x434 => [0x1C81] | 0x43E => [0x1C82]
  | 0x441 => [0x1C83] | 0x442 => [0x1C84, 0x1C85] | 0x44A => [0x1C86] | 0x463 => [0x1C87]
  | 0x1C80 => [0x432] | 0x1C81 => [0x434] | 0x1C82 => [0x43E] | 0x1C83 => [0x441]
  | 0x1C84 => [0x442, 0x1C85] | 0x1C85 => [0x442, 0x1C84] | 0x1C86 => [0x44A]
  | 0x1C87 => [0x463] | 0x1C88 => [0xA64B] | 0x1E61 => [0x1E9B] | 0x1E9B => [0x1E61]
  | 0x1FBE => [0x345, 0x3B9] | 0x1FD3 => [0x390] | 0x1FE3 => [0x3B0] | 0xA64B => [0x1C88]
  | 0xFB05 => [0xFB06] | 0xFB06 => [0xFB05]
  | _ => []

/-- Whether a code point is a blank of Unicode, with the four separators from U+001C
to U+001F. -/
def isUnicodeSpace (n : Nat) : Bool :=
  (9 ≤ n && n ≤ 13) || (0x1C ≤ n && n ≤ 0x20) || n = 0x85 || n = 0xA0 || n = 0x1680 ||
    (0x2000 ≤ n && n ≤ 0x200A) || n = 0x2028 || n = 0x2029 || n = 0x202F || n = 0x205F ||
    n = 0x3000

/-- Whether a code point is a character of words: a letter, digit or number of Unicode,
or the underscore; of ASCII only, when `unicode` is off. -/
def isWordCode (unicode : Bool) (n : Nat) : Bool :=
  if unicode then Unicode.inRanges Unicode.wordRanges n
  else n < 128 && (isAsciiLetter n || isDigit n || n = '_'.toNat)

/-- Whether a code point is in a class by property, of Unicode or of ASCII. -/
def Category.holds (unicode : Bool) (k : Category) (n : Nat) : Bool :=
  match k with
  | .digit => if unicode then isScalar n && Unicode.isDecimal (Char.ofNat n) else isDigit n
  | .space => if unicode then isUnicodeSpace n else n = 32 || (9 ≤ n && n ≤ 13)
  | .word => isWordCode unicode n

/-! ## Compiled expressions -/

/-- How a character is read before it is compared. -/
inductive Fold where
  /-- As it is. -/
  | exact
  /-- In lower case, of ASCII. -/
  | ascii
  /-- In lower case, of Unicode. -/
  | unicode
deriving DecidableEq, Inhabited, Repr

/-- A character read through a fold. -/
def Fold.apply : Fold → Nat → Nat
  | .exact, c => c
  | .ascii, c => asciiLower c
  | .unicode, c => unicodeLower c

/-- A member of a compiled class. -/
inductive Item where
  /-- One code point. -/
  | code (c : Nat)
  /-- The code points from `lo` to `hi`. -/
  | range (lo hi : Nat)
  /-- A code point whose upper case, or itself, lies from `lo` to `hi`. -/
  | rangeOrUpper (lo hi : Nat)
  /-- A class by property, or its complement; of Unicode or of ASCII. -/
  | category (k : Category) (negated unicode : Bool)
  /-- The code points in sorted, disjoint ranges. -/
  | table (ranges : Array (Nat × Nat))
deriving Inhabited, Repr

/-- Whether a code point is in a member of a class. -/
def Item.holds (c : Nat) : Item → Bool
  | .code d => c == d
  | .range lo hi => lo ≤ c && c ≤ hi
  | .rangeOrUpper lo hi => (lo ≤ c && c ≤ hi) || (lo ≤ unicodeUpper c && unicodeUpper c ≤ hi)
  | .category k negated unicode => k.holds unicode c != negated
  | .table ranges => Unicode.inRanges ranges c

/-- A compiled class: its members, or their complement. -/
structure CharClass where
  /-- Whether the class is the complement of its members. -/
  negated : Bool
  /-- The members. -/
  items : List Item
deriving Inhabited, Repr

/-- Whether a code point is in a class. -/
def CharClass.holds (k : CharClass) (c : Nat) : Bool := k.items.any (·.holds c) != k.negated

/-- A place a compiled expression asks about. -/
inductive Spot where
  /-- The start of the text. -/
  | textStart
  /-- The start of the text or of a line. -/
  | lineStart
  /-- The end of the text, or before a newline that ends it. -/
  | finish
  /-- The end of the text or of a line. -/
  | lineEnd
  /-- The end of the text. -/
  | textEnd
  /-- The edge of a word, by the words of Unicode or of ASCII. -/
  | edge (unicode : Bool)
  /-- A place that is no edge of a word. -/
  | inside (unicode : Bool)
deriving DecidableEq, Inhabited, Repr

/-- A step of a compiled expression. -/
inductive Code where
  /-- One character, folded, in a class. -/
  | char (fold : Fold) (cls : CharClass)
  /-- Any character but a newline, or any at all. -/
  | any (dotAll : Bool)
  /-- A place. -/
  | spot (s : Spot)
  /-- A choice between sequences, tried in order. -/
  | branch (alternatives : List (List Code))
  /-- Marks the position in a slot: slot `2 g - 2` opens group `g`, `2 g - 1` closes it. -/
  | mark (slot : Nat)
  /-- A repetition at least `least` times and at most `most`, when bounded. -/
  | repeat (greed : Greed) (least : Nat) (most : Option Nat) (body : List Code)
  /-- The text a group matched, again, folded. -/
  | backref (fold : Fold) (index : Nat)
  /-- `yes` when a group has matched, else `no`. -/
  | ifGroup (index : Nat) (yes no : List Code)
  /-- A look around, `back` characters behind, that must match or must not. -/
  | assert (negated : Bool) (back : Nat) (body : List Code)
  /-- A group that keeps its first match. -/
  | atomic (body : List Code)
deriving Inhabited, Repr

/-! ## The matcher -/

/-- Where a match stands: the position, and the marks of the groups. -/
structure Cursor where
  /-- The position in the text. -/
  pos : Nat
  /-- The marks by slot. -/
  marks : Array (Option Nat)
  /-- One more than the highest slot set. -/
  valid : Nat
deriving Inhabited

namespace Cursor

/-- Sets a mark at the position; the slots skipped below it are cleared. -/
def mark (c : Cursor) (slot : Nat) : Cursor :=
  let cleared := (List.range (slot - c.valid)).foldl
    (fun (m : Array (Option Nat)) i => m.set! (c.valid + i) none) c.marks
  { c with marks := cleared.set! slot (some c.pos), valid := max c.valid (slot + 1) }

/-- What group `g` matched, from where to where, when it has matched. -/
def span? (c : Cursor) (g : Nat) : Option (Nat × Nat) :=
  let i := 2 * (g - 1)
  if i + 1 < c.valid then
    match c.marks[i]?.join, c.marks[i + 1]?.join with
    | some p, some e => if e < p then none else some (p, e)
    | _, _ => none
  else none

end Cursor

/-- The code point at a position of a text. -/
def codeAt (text : Array Char) (i : Nat) : Option Nat := text[i]?.map Char.toNat

/-- Whether a place holds at position `i` of a text. -/
def Spot.holds (text : Array Char) (i : Nat) : Spot → Bool
  | .textStart => i == 0
  | .lineStart => i == 0 || codeAt text (i - 1) == some 10
  | .finish => i == text.size || (i + 1 == text.size && codeAt text i == some 10)
  | .lineEnd => i == text.size || codeAt text i == some 10
  | .textEnd => i == text.size
  | .edge unicode => text.size != 0 && (wordBefore unicode != wordAt unicode)
  | .inside unicode => text.size != 0 && (wordBefore unicode == wordAt unicode)
where
  /-- Whether a character of words stands before the position. -/
  wordBefore (unicode : Bool) : Bool := i > 0 && ((codeAt text (i - 1)).map (isWordCode unicode)).getD false
  /-- Whether a character of words stands at the position. -/
  wordAt (unicode : Bool) : Bool := ((codeAt text i).map (isWordCode unicode)).getD false

/-- Whether the text from `i` repeats the text from `p` to `e`, folded. -/
def repeats (text : Array Char) (fold : Fold) (p e i : Nat) : Bool :=
  i + (e - p) ≤ text.size &&
    (List.range (e - p)).all fun j =>
      ((codeAt text (i + j)).map fold.apply) == ((codeAt text (p + j)).map fold.apply)

/-- What the rest of an expression makes of a cursor: the cursor of a whole match. -/
abbrev Rest := Cursor → Option Cursor

mutual

/-- Matches a list of codes at a cursor, then the rest. -/
def run (text : Array Char) : Nat → List Code → Cursor → Rest → Option Cursor
  | 0, _, _, _ => none
  | _ + 1, [], c, k => k c
  | fuel + 1, s :: more, c, k => step text fuel s c fun c' => run text fuel more c' k

/-- Matches one code at a cursor, then the rest. -/
def step (text : Array Char) : Nat → Code → Cursor → Rest → Option Cursor
  | 0, _, _, _ => none
  | _ + 1, .char fold cls, c, k =>
    match codeAt text c.pos with
    | some ch => if cls.holds (fold.apply ch) then k { c with pos := c.pos + 1 } else none
    | none => none
  | _ + 1, .any dotAll, c, k =>
    match codeAt text c.pos with
    | some ch => if dotAll || ch != 10 then k { c with pos := c.pos + 1 } else none
    | none => none
  | _ + 1, .spot s, c, k => if s.holds text c.pos then k c else none
  | fuel + 1, .branch alternatives, c, k => choose text fuel alternatives c k
  | _ + 1, .mark slot, c, k => k (c.mark slot)
  | fuel + 1, .repeat .greedy least most body, c, k => greedy text fuel body least most 0 none c k
  | fuel + 1, .repeat .lazy least most body, c, k => lazy text fuel body least most 0 none c k
  | fuel + 1, .repeat .possessive least most body, c, k =>
    possessive text fuel body least most 0 none c k
  | _ + 1, .backref fold g, c, k =>
    match c.span? g with
    | some (p, e) =>
      if repeats text fold p e c.pos then k { c with pos := c.pos + (e - p) } else none
    | none => none
  | fuel + 1, .ifGroup g yes no, c, k =>
    if (c.span? g).isSome then run text fuel yes c k else run text fuel no c k
  | fuel + 1, .assert negated back body, c, k =>
    if c.pos < back then (if negated then k c else none)
    else
      match negated, run text fuel body { c with pos := c.pos - back } some with
      | false, some c' => k { c' with pos := c.pos }
      | false, none => none
      | true, some _ => none
      | true, none => k c
  | fuel + 1, .atomic body, c, k =>
    match run text fuel body c some with
    | some c' => k c'
    | none => none

/-- Tries alternatives in order. -/
def choose (text : Array Char) : Nat → List (List Code) → Cursor → Rest → Option Cursor
  | 0, _, _, _ => none
  | _ + 1, [], _, _ => none
  | fuel + 1, a :: more, c, k =>
    match run text fuel a c k with
    | some r => some r
    | none => choose text fuel more c k

/-- A greedy repetition after `count` rounds; `last` is where the last round past the
least count started. -/
def greedy (text : Array Char) :
    Nat → List Code → Nat → Option Nat → Nat → Option Nat → Cursor → Rest → Option Cursor
  | 0, _, _, _, _, _, _, _ => none
  | fuel + 1, body, least, most, count, last, c, k =>
    if count < least then
      run text fuel body c fun c' => greedy text fuel body least most (count + 1) last c' k
    else
      let more :=
        if most.all (count < ·) && last != some c.pos then
          run text fuel body c fun c' => greedy text fuel body least most (count + 1) (some c.pos) c' k
        else none
      match more with
      | some r => some r
      | none => k c

/-- A lazy repetition after `count` rounds; `last` is where the last round past the least
count started. -/
def lazy (text : Array Char) :
    Nat → List Code → Nat → Option Nat → Nat → Option Nat → Cursor → Rest → Option Cursor
  | 0, _, _, _, _, _, _, _ => none
  | fuel + 1, body, least, most, count, last, c, k =>
    if count < least then
      run text fuel body c fun c' => lazy text fuel body least most (count + 1) last c' k
    else
      match k c with
      | some r => some r
      | none =>
        if most.any (count ≥ ·) || last == some c.pos then none
        else run text fuel body c fun c' => lazy text fuel body least most (count + 1) (some c.pos) c' k

/-- A possessive repetition after `count` rounds; `last` is where the last round past the
least count started. -/
def possessive (text : Array Char) :
    Nat → List Code → Nat → Option Nat → Nat → Option Nat → Cursor → Rest → Option Cursor
  | 0, _, _, _, _, _, _, _ => none
  | fuel + 1, body, least, most, count, last, c, k =>
    if count < least then
      match run text fuel body c some with
      | some c' => possessive text fuel body least most (count + 1) last c' k
      | none => none
    else if most.all (count < ·) && last != some c.pos then
      match run text fuel body c some with
      | some c' => possessive text fuel body least most (count + 1) (some c.pos) c' k
      | none => k c
    else k c

end

/-- The depth of search a match may take. -/
def searchFuel : Nat := 1000000

/-- Whether compiled codes with `groups` groups match somewhere in a text: tried from
every position in turn, the end included; with a class `lead`, only at a character
in it. -/
def searchCodes (codes : List Code) (groups : Nat) (lead : Option CharClass) (s : String) :
    Bool :=
  let text := s.toList.toArray
  let fresh (i : Nat) : Cursor := { pos := i, marks := Array.replicate (2 * groups) none, valid := 0 }
  let opens (i : Nat) : Bool := match lead, codeAt text i with
    | none, _ => true
    | some k, some ch => k.holds ch
    | some _, none => false
  (List.range (text.size + 1)).any fun i =>
    opens i && (run text searchFuel codes (fresh i) some).isSome

end ScriptGate.Regex
