import ScriptGate.Check.Options
import ScriptGate.Style.Gate
import ScriptGate.Purity.Analysis
import ScriptGate.Diagnostic.Hint
import ScriptGate.Api.Parse

/-!
# Checking a source: the report

A check runs three stages in a fixed order.

1. The *syntax* stage reads the source.  If it does not read, nothing else
   runs, and its errors, at most the cap of them, are the report.  A number
   literal without a value is one error at the start of the text.
2. The *purity* stage analyses the tree; each violation is an error.
3. The *style* stage lints the source, unless the options skip it; it runs
   even when purity failed, so that one check reports all it can.

The report lists the errors and the warnings of the three stages, in stage
order.  It is valid when the source reads, purity passes, and style passes or
was skipped.
-/

namespace ScriptGate

/-- What the syntax stage finds. -/
structure SyntaxStage where
  /-- The diagnostics: one per syntax error. -/
  diagnostics : List Diagnostic
  /-- The format the source was read in. -/
  format : ModuleFormat
  /-- The tree, when the source reads. -/
  program : Option Node

namespace SyntaxStage

/-- Whether the source reads. -/
def valid (s : SyntaxStage) : Bool := s.program.isSome

/-- The stage as data. -/
def toValue (s : SyntaxStage) : Value :=
  .obj [("valid", .bool s.valid), ("diagnostics", .list (s.diagnostics.map Diagnostic.toValue))]

end SyntaxStage

/-- The diagnostic of a syntax error, with its hint. -/
def syntaxDiagnostic (source : GlyphText) (file : Option String) (message : String)
    (line column : Nat) : Diagnostic :=
  let location : Location := { line, column, file }
  { category := .parsing, severity := .error, message, location,
    snippet := snippet source location, hint := syntaxHint message }

/-- The syntax stage over a source. -/
def checkSyntax (source : GlyphText) (format : ModuleFormat) (cap : Nat) (file : Option String) :
    Except Refusal SyntaxStage :=
  match readSource source format cap with
  | .error (.malformedNumber raw) =>
    let message := (Refusal.malformedNumber raw).message.getD ""
    .ok { diagnostics := [syntaxDiagnostic source file message 1 0], format, program := none }
  | .error e => .error e.toRefusal
  | .ok r =>
    match r.program, r.errors with
    | some p, [] => .ok { diagnostics := [], format := r.format, program := some p }
    | _, errors =>
      .ok { diagnostics := (errors.take cap).map fun e =>
              syntaxDiagnostic source file e.message e.line e.column,
            format := r.format, program := none }

/-- What the purity stage finds: its violations, located. -/
structure PurityStage where
  /-- The violations in pre-order, each with its location and snippet. -/
  violations : List (Violation × Location × GlyphText)

namespace PurityStage

/-- Whether the stage passes. -/
def valid (p : PurityStage) : Bool := p.violations.isEmpty

/-- The diagnostics: each violation an error, its pattern as rule, with a hint. -/
def diagnostics (p : PurityStage) : List Diagnostic :=
  p.violations.map fun (v, location, snip) =>
    { category := .purity, severity := .error, message := v.message, location,
      snippet := snip, rule := some v.pattern, hint := some (v.kind.hint v.pattern) }

/-- The stage as data. -/
def toValue (p : PurityStage) : Value :=
  .obj [("valid", .bool p.valid), ("diagnostics", .list (p.diagnostics.map Diagnostic.toValue)),
    ("violations", .list (p.violations.map fun (v, location, _) =>
      .obj [("kind", .str v.kind.name), ("pattern", .str v.pattern),
        ("message", .str v.message), ("location", location.toValue)]))]

end PurityStage

/-- The purity stage over a tree. -/
def checkPurity (source : GlyphText) (o : CheckOptions) (program : Node) : PurityStage :=
  let allowance : Purity.Allowance :=
    { names := o.allowedNames, members := PatternSet.ofList o.allowedMembers }
  { violations := (analyzePurity allowance program).map fun v =>
      let location := v.location o.file
      (v, location, snippet source location) }

/-- The report of a check. -/
structure Report where
  /-- The syntax stage. -/
  parsing : SyntaxStage
  /-- The purity stage, when the source reads. -/
  purity : Option PurityStage
  /-- The style stage, when the source reads and style is not skipped. -/
  style : Option StyleResult

namespace Report

/-- Every diagnostic, stage by stage. -/
def diagnostics (r : Report) : List Diagnostic :=
  r.parsing.diagnostics ++ (r.purity.map PurityStage.diagnostics).getD [] ++
    (r.style.map (·.diagnostics)).getD []

/-- The errors, in stage order. -/
def errors (r : Report) : List Diagnostic := r.diagnostics.filter (·.isError)

/-- The warnings, in stage order. -/
def warnings (r : Report) : List Diagnostic := r.diagnostics.filter (!·.isError)

/-- Whether the source passes: it reads, purity passes, and style passes or was skipped. -/
def valid (r : Report) : Bool :=
  r.parsing.valid && (r.purity.map PurityStage.valid).getD false &&
    (r.style.map StyleResult.valid).getD true

/-- The report as data. -/
def toValue (r : Report) : Value :=
  .obj [("valid", .bool r.valid), ("module_format", .str r.parsing.format.name),
    ("errors", .list (r.errors.map Diagnostic.toValue)),
    ("warnings", .list (r.warnings.map Diagnostic.toValue)),
    ("syntax", r.parsing.toValue),
    ("purity", (r.purity.map PurityStage.toValue).getD .null),
    ("style", (r.style.map StyleResult.toValue).getD .null)]

end Report

/-- Checks a source under options: syntax, then purity, then style. -/
def checkSource (source : GlyphText) (o : CheckOptions) : Except Refusal Report := do
  let s ← checkSyntax source o.format o.maxErrors o.file
  match s.program with
  | none => return { parsing := s, purity := none, style := none }
  | some p =>
    let purity := checkPurity source o p
    let style ← if o.skipStyle then pure none
      else some <$> checkStyle source o.styleRules o.file
    return { parsing := s, purity := some purity, style }

end ScriptGate
