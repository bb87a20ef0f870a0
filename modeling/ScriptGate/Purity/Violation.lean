import ScriptGate.Syntax.Place
import ScriptGate.Diagnostic.Location
import ScriptGate.Diagnostic.Hint

/-!
# Violations of purity

A program is *pure* when it neither mutates state that outlives a call, nor has
effects, nor reads global state, nor uses a construct that the contract
forbids.  A *violation* names one such breach: its kind, the pattern that
matched (a name, a member path, a method, a node type or a short description),
a message, and the span of the node that breaches.

`ViolationKind.hint` gives advice for a kind and a pattern.
-/

namespace ScriptGate

/-- The kinds of breach of purity. -/
inductive ViolationKind where
  /-- Changing state that is not the current call's own. -/
  | mutation
  /-- An effect on the world: timers, the network, the console, files. -/
  | sideEffect
  /-- Reading state of the whole runtime. -/
  | globalAccess
  /-- A construct the contract forbids: loops, classes, `this`, `with`. -/
  | forbiddenConstruct
deriving DecidableEq, Repr, Inhabited

namespace ViolationKind

/-- The name of a kind. -/
def name : ViolationKind → String
  | .mutation => "mutation"
  | .sideEffect => "side_effect"
  | .globalAccess => "global_access"
  | .forbiddenConstruct => "forbidden_construct"

/-- The kind with a name. -/
def ofName? : String → Option ViolationKind
  | "mutation" => some .mutation
  | "side_effect" => some .sideEffect
  | "global_access" => some .globalAccess
  | "forbidden_construct" => some .forbiddenConstruct
  | _ => none

/-- Advice for a violation of this kind with this pattern. -/
def hint (kind : ViolationKind) (pattern : String) : String :=
  match kind with
  | .mutation =>
    if ["push", "pop", "shift", "unshift"].contains pattern then
      "Use spread operator [...arr, newItem] or concat() instead of mutating array methods"
    else if ["sort", "reverse"].contains pattern then
      "Use toSorted() or toReversed() for non-mutating alternatives"
    else if pattern = "splice" then "Use toSpliced() or slice() to build a new array"
    else if ["property assignment", "property deletion"].contains pattern then
      "Use spread operator \x7b ...obj, prop: value \x7d to create a new object instead"
    else if pattern.startsWith "Object." || pattern.startsWith "Reflect." then
      "Build a new object with spread syntax instead of reflecting on it"
    else "Create a new value instead of mutating the existing one"
  | .sideEffect =>
    if pattern.startsWith "console" then "Remove console statements for pure functions"
    else if ["Math.random", "Date", "crypto.randomUUID", "performance.now"].contains pattern then
      "Pass random or time-dependent values as parameters for deterministic behavior"
    else if pattern.startsWith "fs." || pattern.startsWith "child_process." then
      "Move file and process I/O to the caller and pass data in as arguments"
    else "Remove side effects to make the function pure"
  | .globalAccess =>
    "Pass required values as function parameters instead of accessing globals"
  | .forbiddenConstruct =>
    if Hint.mentions pattern "For" || Hint.mentions pattern "While" then
      "Use map(), filter(), reduce(), or recursion instead of loops"
    else if Hint.mentions pattern "Class" then
      "Use factory functions or plain objects instead of classes"
    else if pattern = "ThisExpression" then
      "Use closures or pass context explicitly instead of 'this'"
    else "Refactor to use functional patterns"

end ViolationKind

/-- One breach of purity. -/
structure Violation where
  /-- Its kind. -/
  kind : ViolationKind
  /-- The pattern that matched. -/
  pattern : String
  /-- What is wrong. -/
  message : String
  /-- The span of the node that breaches; none when the analysis as a whole
  could not finish. -/
  span : Option Span
deriving Inhabited

/-- Where a violation is reported: at the node that breaches, or at the start
of the text when no node does. -/
def Violation.location (v : Violation) (file : Option String) : Location :=
  match v.span with
  | some s => Location.ofSpan s file
  | none => Location.top file

end ScriptGate
