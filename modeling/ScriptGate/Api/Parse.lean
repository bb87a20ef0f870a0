import ScriptGate.Syntax.Outcome
import ScriptGate.Syntax.Document
import ScriptGate.Refusal

/-!
# Reading a source, as data

The answer of reading a source: whether it reads, its resolved format, the
errors found in its syntax, and its tree.  Analyses that need a tree answer with the errors
alone when the source does not read.
-/

namespace ScriptGate

/-- The refusal that an escape beyond Unicode is: a code that does not fit a
signed 32-bit word overflows, any smaller one is a bad value. -/
def Cooking.CookError.toRefusal : Cooking.CookError → Refusal
  | .beyondUnicode code => if code < Nat.pow 2 31 then .badValue none else .overflow

/-- The refusal that a failed reading is. -/
def ReadFailure.toRefusal : ReadFailure → Refusal
  | .capTooSmall cap => .invalidField "max_errors" "must be at least 1" (.int cap)
  | .malformedNumber raw => .malformedNumber raw
  | .beyondUnicode code => (Cooking.CookError.beyondUnicode code).toRefusal

/-- A syntax error as data. -/
def SyntaxError.toValue (e : SyntaxError) : Value :=
  .obj [("message", .str e.message), ("line", .int e.line), ("column", .int e.column)]

/-- The answer of reading a source. -/
def SourceReading.toValue (r : SourceReading) : Value :=
  .obj [("ok", .bool (r.program.isSome && r.errors.isEmpty)),
    ("module_format", .str r.format.name),
    ("errors", .list (r.errors.map SyntaxError.toValue)),
    ("program", (r.program.map Node.toValue).getD .null)]

/-- The answer of an analysis whose source does not read. -/
def unparsedValue (errors : List SyntaxError) : Value :=
  .obj [("parsed", .bool false), ("errors", .list (errors.map SyntaxError.toValue))]

/-- Reads a source and runs an analysis on its tree, or answers with its errors. -/
def withProgram (source : GlyphText) (format : ModuleFormat) (analysis : Node → Value) :
    Except ReadFailure Value := do
  let r ← readSource source format 10
  match r.program with
  | some p => return analysis p
  | none => return unparsedValue r.errors

end ScriptGate
