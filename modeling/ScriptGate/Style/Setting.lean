import ScriptGate.Refusal
import ScriptGate.Diagnostic.Basic

/-!
# Settings of the style rules

A rule is set by a *setting*: a level alone, or a list whose first item is the
level and whose other items are the rule's options.  A level is `0`, `1` or `2`,
or `off`, `warn` or `error` in any case, with nothing around it; booleans are
not levels.

The rules in force are the defaults with the caller's settings over them, key
by key: the default keys in their order, then new keys in the caller's order.
A rule is enabled when its level is not `off`.
-/

namespace ScriptGate

/-- How strongly a rule is enforced. -/
inductive Level where
  /-- Not at all. -/
  | off
  /-- By a warning. -/
  | warn
  /-- By an error. -/
  | error
deriving DecidableEq, Repr, Inhabited

namespace Level

/-- The number of a level: 0, 1 or 2. -/
def toNat : Level → Nat
  | .off => 0
  | .warn => 1
  | .error => 2

/-- The level of a number, if it is one. -/
def ofInt? (n : Int) : Option Level :=
  if n = 0 then some .off else if n = 1 then some .warn else if n = 2 then some .error else none

/-- The level of a name in any case, if it is one. -/
def ofName? (s : String) : Option Level :=
  let lower := String.ofList (s.toList.map Char.toLower)
  if lower = "off" then some .off
  else if lower = "warn" then some .warn
  else if lower = "error" then some .error
  else none

end Level

/-- The severity of a finding made at a numeric level: an error at 2, otherwise a
warning. -/
def severityOfLevel (n : Int) : Severity := if n = 2 then .error else .warning

/-- A rule's level and options. -/
structure RuleSetting where
  /-- How strongly the rule is enforced. -/
  level : Level
  /-- The options, in order. -/
  options : List Value
deriving Inhabited

namespace RuleSetting

/-- The component a rule's settings belong to, as refusals name it. -/
def component (ruleId : String) : String := "style_rules." ++ ruleId

/-- The level a value names, or the refusal that it names none. -/
def levelOf (ruleId : String) (v : Value) : Except Refusal Level :=
  let refuse (shown : String) (suffix : String) : Except Refusal Level :=
    .error (.misconfigured (component ruleId) ("invalid severity " ++ shown ++ suffix))
  match v with
  | .bool _ => refuse v.describe ""
  | .int n =>
    match Level.ofInt? n with
    | some l => .ok l
    | none => refuse v.describe "; expected off, warn or error"
  | .str s =>
    match Level.ofName? s with
    | some l => .ok l
    | none => refuse v.describe "; expected off, warn or error"
  | _ => refuse v.describe "; expected off, warn or error"

/-- The setting a value spells for rule `ruleId`. -/
def read (ruleId : String) (v : Value) : Except Refusal RuleSetting :=
  match v with
  | .list [] => .error (.misconfigured (component ruleId) "empty rule setting")
  | .list (first :: options) => do
    let level ← levelOf ruleId first
    return { level, options }
  | _ => do
    let level ← levelOf ruleId v
    return { level, options := [] }

/-- A setting as data. -/
def toValue (s : RuleSetting) : Value :=
  .obj [("level", .int s.level.toNat), ("options", .list s.options)]

end RuleSetting

/-- Settings of rules by id, in order. -/
abbrev RuleTable := List (String × Value)

namespace RuleTable

/-- The rules in force by default. -/
def defaults : RuleTable :=
  [("no-var", "error"), ("prefer-const", "error"), ("prefer-arrow-callback", "error"),
   ("no-unused-vars", .list ["error", .obj [("args", "after-used"),
     ("argsIgnorePattern", "^_"), ("vars", "local")]]),
   ("functional/no-loop-statements", "error"), ("functional/no-this-expressions", "error"),
   ("no-console", "error"), ("eqeqeq", .list ["error", "always"]), ("no-eval", "error"),
   ("no-implied-eval", "error"), ("no-new-func", "error"), ("no-param-reassign", "error")]

/-- A table with the settings of `over` put in: a key already there keeps its place and
takes the new setting, a new key goes at the end. -/
def put (table : RuleTable) (above : RuleTable) : RuleTable :=
  above.foldl (fun t (k, v) =>
    if t.any (·.1 == k) then t.map fun (k', v') => if k' == k then (k', v) else (k', v')
    else t ++ [(k, v)]) table

/-- The defaults with the caller's settings over them. -/
def merged (above : RuleTable) : RuleTable := defaults.put above

/-- Whether a rule is set to a level other than `off`. -/
def isEnabled (table : RuleTable) (ruleId : String) : Except Refusal Bool :=
  match table.lookup ruleId with
  | none => .ok false
  | some v => do
    let s ← RuleSetting.read ruleId v
    return s.level != .off

/-- The ids of the enabled rules, sorted. -/
def enabled (table : RuleTable) : Except Refusal (List String) := do
  let on ← table.filterM fun (k, _) => table.isEnabled k
  return (on.map (·.1)).mergeSort fun a b => decide (a ≤ b)

end RuleTable

end ScriptGate
