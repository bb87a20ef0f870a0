import ScriptGate.Text.Regex.Compile

/-!
# Regular expressions over names

Settings of the style rules may name a regular expression that a binding's
name is searched for (`"^_"`: names that start with an underscore).  This
module compiles such an expression and searches a text for a match.

The expressions are those of the usual scripting libraries, Unicode-aware:
characters and escapes, classes, anchors, groups of every kind, references,
conditions, look arounds and greedy, lazy and possessive repetitions, with
flags inline.  `Regex.compile` reads a pattern (`readPattern`) and compiles
its terms under the flags of the whole pattern (`compileTerms`);
`Regex.search` tries the codes at every position of a text, or, when the
pattern starts with a class, at every character of that class (`leadOf`).
-/

namespace ScriptGate

/-- A compiled regular expression. -/
structure Regex where
  /-- The codes. -/
  codes : List Regex.Code
  /-- The number of capturing groups. -/
  groups : Nat
  /-- The class a character must be in for a match to be tried at it, if any. -/
  lead : Option Regex.CharClass := none
deriving Inhabited

namespace Regex

/-- Compiles a pattern given as its code points. -/
def compile (pattern : List Nat) : Except Fault Regex := do
  let (terms, r) ← readPattern pattern.toArray
  let groupWidth (g : Nat) : Nat × Nat := (r.widths[g]?.join).getD (0, 0)
  let codes ← compileTerms groupWidth r.flags terms
  return { codes, groups := r.widths.size - 1, lead := leadOf groupWidth r.flags terms }

/-- Whether an expression matches somewhere in a text. -/
def search (r : Regex) (s : String) : Bool := searchCodes r.codes r.groups r.lead s

end Regex

end ScriptGate
