import ScriptGate.Text.Unicode

/-!
# Letter case

Upper and lower case of text, for every script.  A character cases through the
list of characters that case to several (the sharp s upper-cases to `SS`, the
capital I with a dot lower-cases to an `i` and a combining dot), else through
the runs of characters that case one to one, else to itself.

Lowering a text lowers a capital sigma to the final sigma `ς` where it ends a
word: a cased character stands before it, and none after it, looking through
the characters a word's case ignores (apostrophes, combining marks, …).

The first character of a mapping is what a character cases to on its own, as
regular expressions that ignore case compare characters.
-/

namespace ScriptGate.Case

open Unicode

/-- What a character cases to under a special list and runs. -/
def mapChar (special : Array (Nat × List Nat)) (runs : Array CaseRun) (c : Char) : List Char :=
  let n := c.toNat
  match special.find? (·.1 == n) with
  | some (_, ms) => ms.map Char.ofNat
  | none =>
    match findRun runs n 0 runs.size with
    | some m => [Char.ofNat m]
    | none => [c]

/-- The upper case of one character. -/
def upperChars (c : Char) : List Char := mapChar upperSpecial upperRuns c

/-- The lower case of one character, out of context. -/
def lowerChars (c : Char) : List Char := mapChar lowerSpecial lowerRuns c

/-- The character a character upper-cases to on its own. -/
def upperFirst (c : Char) : Char := ((upperChars c).head?).getD c

/-- The character a character lower-cases to on its own. -/
def lowerFirst (c : Char) : Char := ((lowerChars c).head?).getD c

/-- Whether a character has case. -/
def isCased (c : Char) : Bool := inRanges casedRanges c.toNat

/-- Whether a word's case looks through a character. -/
def isCaseIgnorable (c : Char) : Bool := inRanges caseIgnorableRanges c.toNat

/-- Whether the first character that case does not look through is cased. -/
def casedNext (cs : List Char) : Bool :=
  match cs.dropWhile isCaseIgnorable with
  | c :: _ => isCased c
  | [] => false

/-- The lower case of the characters `cs`, `before` being those before them, latest first. -/
def lowerFrom (before : List Char) : List Char → List Char
  | [] => []
  | c :: rest =>
    let mapped :=
      if c.toNat = 0x3A3 then
        if casedNext before && !casedNext rest then ['ς'] else ['σ']
      else lowerChars c
    mapped ++ lowerFrom (c :: before) rest

/-- The lower case of a text. -/
def lower (s : String) : String := String.ofList (lowerFrom [] s.toList)

/-- The upper case of a text. -/
def upper (s : String) : String := String.ofList (s.toList.flatMap upperChars)

end ScriptGate.Case
