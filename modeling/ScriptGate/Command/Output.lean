import ScriptGate.Command.Arguments
import ScriptGate.Check.Report
import ScriptGate.Data.Json
import ScriptGate.Text.Lines

/-!
# What the command line prints

`check` checks each file under the project's settings with the options of the
command line over them: the allowed names are joined to the project's, the
allowed paths follow the project's, and each rule to turn off is set `off`
over the project's rule settings.  It prints, per file, either the whole
report or, with `--syntax-only`, the syntax stage, as JSON or as text; the
times are in milliseconds, to three decimals.

`rules` prints every style rule in the order of its id, with the level the
defaults and the project's settings give it, its options and what it asks for.
-/

namespace ScriptGate

namespace Command

/-- The ids among the rules to turn off, without blanks around them, each once and in
order. -/
def disabledIds (r : CheckRequest) : List String :=
  let ids := ((r.disable.splitOn ",").map Settings.strip).filter (!·.isEmpty)
  ids.eraseDups.mergeSort fun a b => decide (a ≤ b)

/-- The ids among the rules to turn off that name no rule. -/
def unknownRules (r : CheckRequest) : List String :=
  (disabledIds r).filter fun id => (Style.registry.lookup id).isNone

/-- The note on rules to turn off that name no rule, if there are any. -/
def unknownRulesNote (r : CheckRequest) : Option String :=
  match unknownRules r with
  | [] => none
  | unknown =>
    let known := (Style.registry.map (·.1)).mergeSort fun a b => decide (a ≤ b)
    some ("Unknown rule ID(s): " ++ ", ".intercalate unknown ++ "  Known: " ++
      ", ".intercalate known)

/-- The option fields the command line sets over the project's settings. -/
def overrides (s : ProjectSettings) (r : CheckRequest) : List (String × Value) :=
  let names := (s.allowedNames ++ r.allow).eraseDups.mergeSort fun a b => decide (a ≤ b)
  (if r.skipStyle then [("skip_style", Value.bool true)] else []) ++
  (match r.format with
   | some f => [("module_format", Value.str f.name)]
   | none => []) ++
  (match r.maxErrors with
   | some n => [("max_errors", Value.int n)]
   | none => []) ++
  (if r.allow.isEmpty then [] else [("allowed_identifiers", .list (names.map Value.str))]) ++
  (if r.allowMember.isEmpty then []
   else [("allowed_members", .list ((s.allowedMembers ++ r.allowMember).map Value.str))]) ++
  (if r.disable.isEmpty then []
   else [("style_rules", .obj (RuleTable.put s.ruleTable
      ((disabledIds r).map fun id => (id, Value.str "off"))))])

/-- The name of a file: its path after the last slash. -/
def fileName (path : String) : String := ((path.splitOn "/").getLast?).getD path

/-- The first line of a usage, and the hint to ask for help. -/
def usageHint (usage : String) : String :=
  let first := ((usage.splitOn "\n").head?).getD ""
  let command := if first.startsWith "Usage: puregate check" then "puregate check"
    else if first.startsWith "Usage: puregate rules" then "puregate rules" else "puregate"
  first ++ "\nTry '" ++ command ++ " --help' for help."

/-- How long the parts of a check took, in milliseconds. -/
structure Timings where
  /-- The whole check. -/
  total : Float := 0
  /-- The syntax stage. -/
  parsing : Float := 0
  /-- The purity stage. -/
  purity : Float := 0
  /-- The style stage. -/
  style : Float := 0

/-- A checked file. -/
inductive Checked where
  /-- The whole report of a file. -/
  | full (file : String) (report : Report) (timings : Timings)
  /-- The syntax stage of a file. -/
  | syntaxOnly (file : String) (stage : SyntaxStage) (ms : Float)

namespace Checked

/-- The file checked. -/
def file : Checked → String
  | full f _ _ | syntaxOnly f _ _ => f

/-- Whether the file passes. -/
def valid : Checked → Bool
  | full _ r _ => r.valid
  | syntaxOnly _ s _ => s.valid

/-- The diagnostics to show: errors then warnings of a report, or those of the stage. -/
def diagnostics : Checked → List Diagnostic
  | full _ r _ => r.errors ++ r.warnings
  | syntaxOnly _ s _ => s.diagnostics

/-- A stage as data, with its time. -/
def stageValue (isValid : Bool) (diagnostics : List Diagnostic) (ms : Float) :
    List (String × Value) :=
  [("valid", .bool isValid), ("duration_ms", .float ms),
   ("diagnostics", .list (diagnostics.map Diagnostic.toValue))]

/-- A checked file as data. -/
def toValue : Checked → Value
  | full f r t =>
    .obj [("file", .str f), ("valid", .bool r.valid),
      ("errors", .list (r.errors.map Diagnostic.toValue)),
      ("warnings", .list (r.warnings.map Diagnostic.toValue)),
      ("syntax", .obj (stageValue r.parsing.valid r.parsing.diagnostics t.parsing)),
      ("purity", match r.purity with
        | some p =>
          match p.toValue with
          | .obj fields =>
            .obj (stageValue p.valid p.diagnostics t.purity ++
              fields.filter fun (k, _) => k == "violations")
          | v => v
        | none => .null),
      ("style", match r.style with
        | some s =>
          .obj (stageValue s.valid s.diagnostics t.style ++
            [("error_count", .int s.errorCount), ("warning_count", .int s.warningCount)])
        | none => .null),
      ("duration_ms", .float t.total)]
  | syntaxOnly f s ms =>
    .obj [("file", .str f), ("valid", .bool s.valid), ("module_format", .str s.format.name),
      ("duration_ms", .float ms),
      ("diagnostics", .list (s.diagnostics.map Diagnostic.toValue))]

/-- The time of the whole check. -/
def total : Checked → Float
  | full _ _ t => t.total
  | syntaxOnly _ _ ms => ms

end Checked

/-- Milliseconds to a tenth. -/
def tenths (ms : Float) : String :=
  let n := (ms * 10).round.toUInt64.toNat
  toString (n / 10) ++ "." ++ toString (n % 10)

/-- Rows as columns, each as wide as its widest cell, two spaces apart. -/
def columns (rows : List (List String)) : List String :=
  let width (i : Nat) : Nat := (rows.map fun row => ((row[i]?).getD "").length).foldl max 0
  let count := (rows.map List.length).foldl max 0
  rows.map fun row =>
    let cells := (List.range count).map fun i =>
      let cell := (row[i]?).getD ""
      cell ++ String.ofList (List.replicate (width i - cell.length) ' ')
    Settings.strip ("  ".intercalate cells)

/-- The lines that show a checked file as text. -/
def Checked.lines (c : Checked) : List String :=
  let ds := c.diagnostics
  if c.valid && ds.isEmpty then ["Valid: " ++ c.file ++ "  " ++ tenths c.total ++ "ms"]
  else
    let errors := (ds.filter (·.isError)).length
    let header := c.file ++ "  " ++ (if c.valid then "valid" else "invalid") ++ "  " ++
      toString errors ++ " error(s)  " ++ toString (ds.length - errors) ++ " warning(s)"
    let rows := ds.map fun d =>
      [d.category.name, d.rule.getD "", d.severity.name,
       toString d.location.line ++ ":" ++ toString d.location.column, d.message,
       d.hint.getD ""]
    header :: columns (["Stage", "Rule", "Severity", "Location", "Message", "Suggestion"] :: rows) ++
      [""]

/-- The output of `check`. -/
def checkOutput (json : Bool) (checked : List Checked) : String :=
  if json then (Value.list (checked.map Checked.toValue)).toJson
  else "\n".intercalate ("" :: checked.flatMap Checked.lines)

/-- The name of a rule's level. -/
def levelName : Level → String
  | .error => "error"
  | .warn => "warn"
  | .off => "off"

/-- Every style rule with its level and options under a project's rule settings, in the
order of the ids; a setting that makes no sense refuses. -/
def ruleRows (s : ProjectSettings) : Except Refusal (List (String × String × List Value × String)) :=
  let table := RuleTable.merged s.ruleTable
  let ids := (Style.registry.map (·.1)).mergeSort fun a b => decide (a ≤ b)
  ids.mapM fun id => do
    let setting ← RuleSetting.read id ((table.lookup id).getD (.str "off"))
    pure (id, levelName setting.level, setting.options, (Style.summaries.lookup id).getD "")

/-- The output of `rules`. -/
def rulesOutput (json : Bool) (rows : List (String × String × List Value × String)) : String :=
  if json then
    (Value.list (rows.map fun (id, level, options, summary) =>
      .obj [("rule_id", .str id), ("severity", .str level), ("options", .list options),
        ("description", .str summary)])).toJson
  else
    "\n".intercalate (columns (["Rule", "Severity", "Description"] ::
      rows.map fun (id, level, _, summary) => [id, level, summary]))

end Command

end ScriptGate
