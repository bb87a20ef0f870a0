import ScriptGate.Style.Lint

/-!
# The style stage

The style stage lints a source under the default rules with the caller's
settings over them, and turns each message into a diagnostic: columns count
from 0 there, and a message's level 2 is an error, any other a warning.  The
stage passes when no diagnostic is an error.
-/

namespace ScriptGate

/-- What the style stage finds. -/
structure StyleResult where
  /-- The diagnostics, ordered by place. -/
  diagnostics : List Diagnostic
deriving Inhabited

namespace StyleResult

/-- How many diagnostics are errors. -/
def errorCount (r : StyleResult) : Nat := (r.diagnostics.filter (·.isError)).length

/-- How many diagnostics are warnings. -/
def warningCount (r : StyleResult) : Nat := r.diagnostics.length - r.errorCount

/-- Whether the stage passes: no diagnostic is an error. -/
def valid (r : StyleResult) : Bool := r.errorCount == 0

/-- The result as data. -/
def toValue (r : StyleResult) : Value :=
  .obj [("valid", .bool r.valid), ("diagnostics", .list (r.diagnostics.map Diagnostic.toValue)),
    ("error_count", .int r.errorCount), ("warning_count", .int r.warningCount)]

end StyleResult

/-- The diagnostic of a linter message, its column counted from 0. -/
def LintMessage.toDiagnostic (source : GlyphText) (file : Option String) (m : LintMessage) :
    Diagnostic :=
  let location : Location := { line := max m.line 1, column := m.column - 1, file }
  { category := .style, severity := severityOfLevel m.level, message := m.message, location,
    snippet := snippet source location, rule := m.ruleId, hint := m.hint }

/-- The style stage over a source, with the caller's settings over the defaults. -/
def checkStyle (source : GlyphText) (overrides : RuleTable) (file : Option String) :
    Except Refusal StyleResult := do
  let messages ← lint source (RuleTable.merged overrides)
  return { diagnostics := messages.map (LintMessage.toDiagnostic source file) }

end ScriptGate
