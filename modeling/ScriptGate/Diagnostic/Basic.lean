import ScriptGate.Diagnostic.Snippet

/-!
# Diagnostics

Every stage of a check reports what it finds as *diagnostics* of one shape: the
stage that found it, how severe it is, a message, a location with the snippet
around it, and, where a stage has them, the rule that fired and a hint.  Only
errors make a check fail; warnings are reported beside them.
-/

namespace ScriptGate

/-- The stage that found a problem. -/
inductive Category where
  /-- Reading the source. -/
  | parsing
  /-- The purity analysis. -/
  | purity
  /-- The style rules. -/
  | style
deriving DecidableEq, Repr, Inhabited

/-- The name of a stage. -/
def Category.name : Category → String
  | .parsing => "syntax"
  | .purity => "purity"
  | .style => "style"

/-- How severe a problem is; only errors make a check fail. -/
inductive Severity where
  /-- A problem that fails the check. -/
  | error
  /-- A problem reported without failing the check. -/
  | warning
deriving DecidableEq, Repr, Inhabited

/-- The name of a severity. -/
def Severity.name : Severity → String
  | .error => "error"
  | .warning => "warning"

/-- One problem found by a stage. -/
structure Diagnostic where
  /-- The stage that found it. -/
  category : Category
  /-- Its severity. -/
  severity : Severity
  /-- What is wrong. -/
  message : String
  /-- Where. -/
  location : Location
  /-- The lines around it. -/
  snippet : GlyphText := []
  /-- The rule that fired, when the stage has rules. -/
  rule : Option String := none
  /-- A hint for mending it. -/
  hint : Option String := none
deriving Inhabited

namespace Diagnostic

/-- Whether a diagnostic is an error. -/
def isError (d : Diagnostic) : Bool := d.severity == .error

/-- A diagnostic as data. -/
def toValue (d : Diagnostic) : Value :=
  .obj [("category", .str d.category.name), ("severity", .str d.severity.name),
    ("message", .str d.message), ("location", d.location.toValue),
    ("snippet", .glyphs d.snippet), ("rule", Value.ofOption Value.str d.rule),
    ("suggestion", Value.ofOption Value.str d.hint)]

end Diagnostic

end ScriptGate
