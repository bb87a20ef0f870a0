import ScriptGate.Text.CharName.Table

/-!
# Characters by name

Reads a character from its Unicode name, as an escape such as `\N{EM DASH}`
names it.

* A name that starts with `HANGUL SYLLABLE ` spells a syllable from its three
  jamo, the first and last of which may be empty: each is the longest of its
  list that the text starts with, and nothing may follow the last.
* A name that starts with `CJK UNIFIED IDEOGRAPH-` spells a unified ideograph
  by four or five hexadecimal digits, the letters in capitals.
* Any other name is looked up in `table`, its ASCII letters in either case.

The first two prefixes are matched in capitals only, and a name that starts
with one of them is not looked up in the table.
-/

namespace ScriptGate.CharName

/-- The leading consonants of a Hangul syllable, in the order of their numbers. -/
def leadJamo : List String :=
  ["G", "GG", "N", "D", "DD", "R", "M", "B", "BB", "S", "SS", "", "J", "JJ", "C", "K", "T",
   "P", "H"]

/-- The vowels of a Hangul syllable, in the order of their numbers. -/
def vowelJamo : List String :=
  ["A", "AE", "YA", "YAE", "EO", "E", "YEO", "YE", "O", "WA", "WAE", "OE", "YO", "U", "WEO",
   "WE", "WI", "YU", "EU", "YI", "I"]

/-- The trailing consonants of a Hangul syllable, in the order of their numbers; the
first is none. -/
def tailJamo : List String :=
  ["", "G", "GG", "GS", "N", "NJ", "NH", "D", "L", "LG", "LM", "LB", "LS", "LT", "LP", "LH",
   "M", "B", "BS", "S", "SS", "NG", "J", "C", "K", "T", "P", "H"]

/-- The longest jamo of a list that a text starts with, the first of the longest when
several are as long: its number and the text after it. -/
def longestJamo (jamo : List String) (cs : List Char) : Option (Nat × List Char) :=
  let found := (jamo.zipIdx.filter fun (j, _) => j.toList.isPrefixOf cs).foldl
    (fun (best : Option (Nat × Nat)) (j, i) =>
      match best with
      | some (_, len) => if j.length > len then some (i, j.length) else best
      | none => some (i, j.length))
    none
  found.map fun (i, len) => (i, cs.drop len)

/-- The Hangul syllable its jamo spell. -/
def hangul? (cs : List Char) : Option Nat := do
  let (l, r1) ← longestJamo leadJamo cs
  let (v, r2) ← longestJamo vowelJamo r1
  let (t, r3) ← longestJamo tailJamo r2
  if r3.isEmpty then some (0xAC00 + (l * vowelJamo.length + v) * tailJamo.length + t) else none

/-- Whether a code point is a unified ideograph. -/
def isUnifiedIdeograph (n : Nat) : Bool :=
  (0x3400 ≤ n && n ≤ 0x4DBF) || (0x4E00 ≤ n && n ≤ 0x9FFF) || (0x20000 ≤ n && n ≤ 0x2A6DF) ||
    (0x2A700 ≤ n && n ≤ 0x2B738) || (0x2B740 ≤ n && n ≤ 0x2B81D) ||
    (0x2B820 ≤ n && n ≤ 0x2CEA1) || (0x2CEB0 ≤ n && n ≤ 0x2EBE0) || (0x30000 ≤ n && n ≤ 0x3134A)

/-- The value of a digit or capital hexadecimal letter. -/
def capitalHex? (c : Char) : Option Nat :=
  if '0' ≤ c && c ≤ '9' then some (c.toNat - '0'.toNat)
  else if 'A' ≤ c && c ≤ 'F' then some (c.toNat - 'A'.toNat + 10)
  else none

/-- The unified ideograph four or five hexadecimal digits spell. -/
def unifiedIdeograph? (cs : List Char) : Option Nat := do
  if cs.length ≠ 4 && cs.length ≠ 5 then none
  let n ← cs.foldlM (fun acc c => (capitalHex? c).map (acc * 16 + ·)) 0
  if isUnifiedIdeograph n then some n else none

/-- How many leading characters an entry shares with the name before it, when the
character opens an entry: a small letter for fewer than 26, U+0100 plus the count for
more. -/
def shared? (c : Char) : Option Nat :=
  if 'a' ≤ c && c ≤ 'z' then some (c.toNat - 'a'.toNat)
  else if 0x100 ≤ c.toNat && c.toNat < 0x180 then some (c.toNat - 0x100)
  else none

/-- The word a character from U+0180 on stands for in a name. -/
def word? (c : Char) : Option String :=
  if 0x180 ≤ c.toNat then words[c.toNat - 0x180]? else none

/-- The value of a digit or capital letter as a digit in base 36. -/
def base36? (c : Char) : Option Nat :=
  if '0' ≤ c && c ≤ '9' then some (c.toNat - '0'.toNat)
  else if 'A' ≤ c && c ≤ 'Z' then some (c.toNat - 'A'.toNat + 10)
  else none

/-- How the digits after an entry's name give its code point. -/
inductive CodeForm where
  /-- The digits are the code point. -/
  | exact
  /-- The code point is the digits plus one above the code point before. -/
  | above
  /-- The code point is the digits below the code point before. -/
  | below

/-- The mark that ends a name and says how its digits read. -/
def CodeForm.ofMark? : Char → Option CodeForm
  | '=' => some .exact
  | '>' => some .above
  | '<' => some .below
  | _ => none

/-- The code point that the digits `d` give after the code point `prev`. -/
def CodeForm.point (prev d : Nat) : CodeForm → Nat
  | .exact => d
  | .above => prev + d + 1
  | .below => prev - d

/-- The state of a pass over the table, seeking one name: how many leading characters
of the current entry's name agree with the name sought, how long that name is, the
digits of its code point so far and how they read, the code point of the entry before,
whether the code point is being read, and the code point of the name sought once it has
been met.

An entry shares its first characters with the entry before it, so as many of them agree
with the name sought as agreed before, at most; the characters after them extend the
agreement while it runs unbroken. -/
structure Scan where
  /-- The leading characters of the current name that agree with the name sought. -/
  agreed : Nat := 0
  /-- The length of the current name. -/
  length : Nat := 0
  /-- The digits of the current entry's code point, as far as they have been read. -/
  digits : Nat := 0
  /-- How those digits give the code point. -/
  form : CodeForm := .exact
  /-- The code point of the entry before. -/
  prev : Nat := 0
  /-- Whether the characters read are those of the code point. -/
  inCode : Bool := false
  /-- The code point of the name sought, once met. -/
  found : Option Nat := none

/-- The code point of the current entry. -/
def Scan.point (s : Scan) : Nat := s.form.point s.prev s.digits

/-- Ends the current entry: its code point is the answer when its name is `sought`. -/
def Scan.close (sought : Array Char) (s : Scan) : Scan :=
  if s.inCode && s.found.isNone && s.agreed = sought.size && s.length = sought.size then
    { s with found := some s.point }
  else s

/-- Reads one character of a name. -/
def Scan.nameChar (sought : Array Char) (s : Scan) (c : Char) : Scan :=
  let grows := s.agreed = s.length && sought[s.length]? = some c
  { s with agreed := if grows then s.agreed + 1 else s.agreed, length := s.length + 1 }

/-- Reads one character of the table. -/
def Scan.feed (sought : Array Char) (s : Scan) (c : Char) : Scan :=
  match shared? c with
  | some shared =>
    let s := s.close sought
    { s with agreed := min s.agreed shared, length := shared, digits := 0, form := .exact,
             prev := s.point, inCode := false }
  | none =>
    match CodeForm.ofMark? c with
    | some form => { s with inCode := true, form }
    | none =>
      if s.inCode then { s with digits := s.digits * 36 + ((base36? c).getD 0) }
      else match word? c with
        | some w => w.foldl (Scan.nameChar sought) s
        | none => s.nameChar sought c

/-- The code point of a name in the table, its ASCII letters in either case. -/
def inTable? (name : List Char) : Option Nat :=
  let sought := (name.map Char.toUpper).toArray
  ((table.foldl (fun (s : Scan) (piece : String) => piece.foldl (Scan.feed sought) s) {}).close sought).found

/-- The character a name names: a Hangul syllable, a unified ideograph, or a name of
the table. -/
def lookup? (name : List Char) : Option Nat :=
  if "HANGUL SYLLABLE ".toList.isPrefixOf name then hangul? (name.drop 16)
  else if "CJK UNIFIED IDEOGRAPH-".toList.isPrefixOf name then unifiedIdeograph? (name.drop 22)
  else inTable? name

end ScriptGate.CharName
