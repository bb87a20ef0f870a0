import ScriptGate.Style.Rules
import ScriptGate.Syntax.Outcome
import ScriptGate.Api.Parse

/-!
# Linting a source

Linting reads a source with its format inferred and runs each enabled rule of
a table, in the table's order; rules without an implementation are passed
over.  Each finding becomes a *message* at the level of its rule, with a line
and a column counted from 1.  The messages are ordered by line and column, and
findings at the same place keep the order of their rules.

A source that does not read gives one fatal message instead, made of its first
syntax error; rules are not run then, and their settings are not looked at.  A
setting is looked at only when its rule is reached, so a bad setting refuses
the call only when every rule before it has run.
-/

namespace ScriptGate

/-- A message of the linter. -/
structure LintMessage where
  /-- The rule that found it; none for a source that does not read. -/
  ruleId : Option String
  /-- Its level: 1 for a warning, 2 for an error. -/
  level : Nat
  /-- What is wrong. -/
  message : String
  /-- The line, from 1. -/
  line : Nat
  /-- The column, from 1. -/
  column : Nat
  /-- Whether the source did not read. -/
  fatal : Bool := false
  /-- A hint for mending it. -/
  hint : Option String := none
deriving Inhabited

namespace LintMessage

/-- The message for a source that does not read. -/
def unreadable (message : String) (line column : Nat) : LintMessage :=
  { ruleId := none, level := 2, message := "Parsing error: " ++ message, line, column,
    fatal := true }

/-- A message as data. -/
def toValue (m : LintMessage) : Value :=
  .obj [("rule_id", Value.ofOption Value.str m.ruleId), ("severity", .int m.level),
    ("message", .str m.message), ("line", .int m.line), ("column", .int m.column),
    ("fatal", .bool m.fatal), ("suggestion", Value.ofOption Value.str m.hint)]

end LintMessage

namespace Style

/-- The messages of the enabled rules of a table over a subject, in the table's order. -/
def runRules (subject : Subject) : RuleTable → Except Refusal (List LintMessage)
  | [] => .ok []
  | (id, setting) :: rest => do
    let s ← RuleSetting.read id setting
    let here ← match s.level, registry.lookup id with
      | .off, _ | _, none => pure []
      | level, some rule => do
        let findings ← rule subject s.options
        pure (findings.map fun f =>
          { ruleId := some id, level := level.toNat, message := f.message,
            line := f.span.start.line, column := f.span.start.column + 1, hint := f.hint })
    let later ← runRules subject rest
    return here ++ later

end Style

/-- The messages of linting a source under a table of rules, ordered by place. -/
def lint (source : GlyphText) (rules : RuleTable) : Except Refusal (List LintMessage) :=
  match readSource source .infer 1 with
  | .error (.malformedNumber raw) =>
    .ok [LintMessage.unreadable ((Refusal.malformedNumber raw).message.getD "") 1 1]
  | .error e => .error e.toRefusal
  | .ok r =>
    match r.program, r.errors with
    | some p, [] => do
      let messages ← Style.runRules (Style.Subject.ofProgram p) rules
      return messages.mergeSort fun a b =>
        a.line < b.line || (a.line == b.line && a.column ≤ b.column)
    | _, e :: _ => .ok [LintMessage.unreadable e.message e.line (e.column + 1)]
    | none, [] => .ok [LintMessage.unreadable "Syntax error" 1 1]

end ScriptGate
