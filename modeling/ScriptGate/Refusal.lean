import ScriptGate.Data.Value
import ScriptGate.Syntax.Numeral

/-!
# Refusals: why a call gives no answer

A call that cannot answer is *refused*, and says why.  A source that does not
read is not refused: its errors travel in the answer.  Refusals answer
mistakes of the caller or of the configuration: a field out of range, a setting that makes no sense, a
number literal without a value, a value of the wrong shape, options that the
option model rejects, or a configuration text that does not read.

An answer is refused as well when an integer in it has more decimal digits
than a number may be written with (`Value.written`).

`Refusal.message` words each refusal.  A field out of range quotes the value it
got, unless it got none; a rejected set of options lists each field with the
kind of its rejection.
-/

namespace ScriptGate

/-- The stage of reading YAML that stops at a fault: taking its characters,
scanning them into tokens, parsing the tokens into a document, taking the one
document of the text, or building values from its nodes. -/
inductive YamlStage where
  /-- A character may not stand in a YAML text. -/
  | decoding
  /-- The characters do not form tokens. -/
  | scanning
  /-- The tokens do not form a document. -/
  | parsing
  /-- The text holds more than one document. -/
  | composing
  /-- A node does not form a value. -/
  | constructing
deriving Inhabited, DecidableEq

/-- Why a call gives no answer. -/
inductive Refusal where
  /-- A field breaks a constraint; `got` is the value, `null` when there is none to show. -/
  | invalidField (field constraint : String) (got : Value)
  /-- A component is configured in a way that cannot be used. -/
  | misconfigured (component reason : String)
  /-- A number literal has no value. -/
  | malformedNumber (raw : String)
  /-- A value of the wrong shape; some carry a message of their own. -/
  | badValue (message : Option String)
  /-- The options were rejected: each field with the kind of its rejection. -/
  | rejectedOptions (entries : List (String × String))
  /-- A value of a type the operation cannot take at all. -/
  | wrongType
  /-- A number too large for the operation, such as an infinite count. -/
  | overflow
  /-- A value without the attribute the operation looks up: a field read from a
  value that is no object. -/
  | missingAttribute
  /-- A regular expression that does not read. -/
  | badPattern
  /-- A configuration text that does not read as TOML. -/
  | malformedToml
  /-- A configuration text that does not read as YAML, and the stage that stopped it. -/
  | malformedYaml (stage : YamlStage)
  /-- A lookup of a name that a table does not have. -/
  | missingKey
  /-- A position past the end of a text or list. -/
  | outOfRange
  /-- A structure that holds itself, or nests deeper than can be followed. -/
  | tooDeep
  /-- A name that cannot be written as the bytes the environment keys its variables by:
  it holds a lone surrogate that stands for no byte. -/
  | unencodable
deriving Inhabited

namespace Refusal

/-- The message of a refusal, if it has one. -/
def message : Refusal → Option String
  | invalidField field constraint got =>
    let base := "Validation failed for '" ++ field ++ "': " ++ constraint
    some (match got with
      | .null => base
      | v => base ++ " (got " ++ v.describe ++ ")")
  | misconfigured component reason =>
    some ("Configuration error in '" ++ component ++ "': " ++ reason)
  | malformedNumber raw => some ("Malformed number literal " ++ Value.quoteString raw)
  | badValue m => m
  | rejectedOptions entries =>
    some ("; ".intercalate (entries.map fun (field, kind) => field ++ ": " ++ kind))
  | wrongType | overflow | missingAttribute | badPattern | malformedToml | malformedYaml _
  | missingKey | outOfRange | tooDeep | unencodable => none

/-- Whether the refusal is one the program words itself: a field out of range, a
component misconfigured, a number literal without a value. -/
def isOwn : Refusal → Bool
  | invalidField .. | misconfigured .. | malformedNumber _ => true
  | _ => false

end Refusal

namespace Value

mutual

/-- Whether every integer in a plain value has at most `Numeral.digitLimit`
decimal digits. -/
def writable : Value → Bool
  | int n => Numeral.printable n
  | list items => writableItems items
  | obj fields => writableFields fields
  | _ => true

/-- Whether every item is writable. -/
def writableItems : List Value → Bool
  | [] => true
  | v :: rest => writable v && writableItems rest

/-- Whether every field's value is writable. -/
def writableFields : List (String × Value) → Bool
  | [] => true
  | (_, v) :: rest => writable v && writableFields rest

end

/-- An answer as it is written out: refused as a bad value when an integer in
it has more decimal digits than a number may be written with. -/
def written (v : Value) : Except Refusal Value :=
  if v.plain.writable then .ok v else .error (.badValue none)

end Value

end ScriptGate
