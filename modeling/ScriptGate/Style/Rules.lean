import ScriptGate.Style.Setting
import ScriptGate.Purity.Path
import ScriptGate.Scope.Builder
import ScriptGate.Text.Regex

/-!
# The style rules

Thirteen rules, each known by an id and checked over a parsed program with its
scopes.  A rule gives *findings*, each a message at a node with an optional
hint; the rule's level decides later how severe they are.

* `no-var`: declarations with `var`.
* `prefer-const`: `let` bindings given a value and never assigned again.
* `no-unused-vars`: bindings never read, with the options `vars` (`all`,
  `local`: module bindings are exempt), `args` (`after-used`, `all`, `none`),
  `caughtErrors` (`all`, `none`) and the patterns `varsIgnorePattern`,
  `argsIgnorePattern` and `caughtErrorsIgnorePattern`; a lone string option is
  the `vars` mode.  A reference that both reads and writes, as `x++` does, is
  no reading.  After-used parameters: only those after the last one read count.
* `no-param-reassign`: assignments to parameters, and with `props` set, writes
  to properties of parameters not named in `ignorePropertyModificationsFor`.
* `prefer-arrow-callback`: function expressions passed as arguments that could
  be arrows: not generators, not naming themselves, and using no `this`,
  `super` or free `arguments` of their own.
* `eqeqeq`: `==` and `!=`, except in `smart` mode against `null`, `typeof` or
  between two literals, and in `always` mode against `null` with
  `{"null": "ignore"}`.
* `no-console`: members of the free name `console`, unless its property is
  allowed by `allow`.
* `no-eval`, `no-implied-eval`, `no-new-func`: `eval`, timers given strings,
  and the `Function` constructor, called directly or through `window`,
  `global` or `globalThis`.
* `no-debugger`, `functional/no-loop-statements`,
  `functional/no-this-expressions`: the statement, loops, and `this`.
-/

namespace ScriptGate

namespace Style

/-- A problem found by a rule, before its level is known. -/
structure Finding where
  /-- What is wrong. -/
  message : String
  /-- The span of the node it is found at. -/
  span : Span
  /-- A hint for mending it. -/
  hint : Option String := none
deriving Inhabited

/-- What a rule may inspect: the scopes and the nodes of a program in pre-order. -/
structure Subject where
  /-- The scopes. -/
  arena : Arena
  /-- The nodes in pre-order. -/
  nodes : List Node

/-- The subject of a program. -/
def Subject.ofProgram (p : Node) : Subject := { arena := analyzeScopes p, nodes := p.nodes }

/-- The object among the options at `i`, as its fields; no fields when there is none. -/
def optionFields (options : List Value) (i : Nat) : List (String × Value) :=
  match options[i]? with
  | some (.obj fs) => fs
  | _ => []

/-- The refusal for a pattern that does not compile. -/
def patternRefusal : Regex.Fault → Refusal
  | .malformed => .badPattern
  | .tooLarge => .overflow
  | .mixedFlags => .badValue none

/-- The expression a setting names, when it names a non-empty string. -/
def compile? (v : Option Value) : Except Refusal (Option Regex) :=
  let pattern : Option (List Nat) := match v with
    | some (.str p) => some (p.toList.map Char.toNat)
    | some (.glyphs g) => some (g.map Glyph.code)
    | _ => none
  match pattern with
  | some p@(_ :: _) =>
    match Regex.compile p with
    | .ok r => .ok (some r)
    | .error f => .error (patternRefusal f)
  | _ => .ok none

/-- Whether an expression, if there is one, is found in a name. -/
def ignored (r : Option Regex) (name : String) : Bool := (r.map (·.search name)).getD false

/-- The members of a setting taken as a collection; an absent setting has none. -/
def collection (v : Option Value) : Except Refusal (List Value) :=
  match v with
  | none => .ok []
  | some v =>
    match v.members? with
    | some ms => .ok ms
    | none => .error .wrongType

namespace Subject

/-- The references to a binding. -/
def referencesTo (s : Subject) (b : Binding) : List Reference :=
  s.arena.referencesOf (b.scope, b.name)

/-- The references that write a binding. -/
def writesTo (s : Subject) (b : Binding) : List Reference :=
  (s.referencesTo b).filter (·.isWrite)

/-- Whether no reference reads a binding, other than to write it too. -/
def neverRead (s : Subject) (b : Binding) : Bool :=
  (s.referencesTo b).all fun r => !r.isRead || r.isWrite

/-- Whether a node is the identifier `name` in a place of use, resolving to nothing. -/
def isFree (s : Subject) (n : Node) (name : String) : Bool :=
  match n with
  | .identifier sp nm =>
    nm == name && (s.arena.referenceAt sp.start.offset).any (·.binding.isNone)
  | _ => false

/-- The global objects through which a global function may be called. -/
def globalObjects : List String := ["window", "global", "globalThis"]

/-- Whether a callee calls one of the global functions `names`, by its free name or
through a free global object. -/
def callsGlobal (s : Subject) (callee : Node) (names : List String) : Except Refusal Bool :=
  match callee.unwrapped with
  | c@(.identifier _ name) => return names.contains name && s.isFree c name
  | c@(.memberExpression ..) => do
    match ← c.memberPath?.mapError PathFault.toRefusal with
    | some path =>
      match path.splitOn "." with
      | root :: rest@(_ :: _) =>
        return globalObjects.contains root && names.contains (".".intercalate rest) &&
          s.isFree c.root root
      | _ => return false
    | none => return false
  | _ => return false

end Subject

/-! ## Declarations -/

/-- `no-var`. -/
def noVar (s : Subject) (_ : List Value) : Except Refusal (List Finding) :=
  .ok (s.nodes.filterMap fun n =>
    match n with
    | .variableDeclaration sp _ .var =>
      some { message := "Unexpected var, use let or const instead.", span := sp,
             hint := some "Replace 'var' with 'const', or 'let' if the variable is reassigned" }
    | _ => none)

/-- `prefer-const`. -/
def preferConst (s : Subject) (_ : List Value) : Except Refusal (List Finding) :=
  .ok (s.arena.allBindings.filterMap fun b =>
    if b.kind != .lexicalLet || !b.initialized || !(s.writesTo b).isEmpty then none
    else match b.identifiers with
      | sp :: _ =>
        some { message := "'" ++ b.name ++ "' is never reassigned. Use 'const' instead.",
               span := sp, hint := some "Declare it with 'const'" }
      | [] => none)

/-- Kinds of binding that are only ever defined, never assigned a value of their own. -/
def definedOnly (k : BindingKind) : Bool :=
  match k with
  | .function | .classDecl | .imported | .parameter | .caught => true
  | _ => false

/-- The finding for a binding that is never used, at its first declaring identifier. -/
def Subject.unused (s : Subject) (b : Binding) : Option Finding :=
  let assigned := !definedOnly b.kind && (b.initialized || !(s.writesTo b).isEmpty)
  let message := if assigned then "'" ++ b.name ++ "' is assigned a value but never used."
    else "'" ++ b.name ++ "' is defined but never used."
  b.identifiers.head?.map fun sp =>
    { message, span := sp, hint := some "Remove it or prefix it with '_'" }

/-- The parameters of a function in order, each binding once. -/
def Subject.parameters (s : Subject) (fn : Node) : List Binding :=
  let params := match fn with
    | .functionDeclaration _ _ ps .. | .functionExpression _ _ ps .. => ps
    | .arrowFunctionExpression _ ps .. => ps
    | _ => []
  let found := params.flatMap fun p =>
    (ScopeBuilder.patternIdentifiers p).filterMap fun ident =>
      (s.arena.declaredAt ident.span.start.offset).bind s.arena.binding?
  found.foldl (fun acc b =>
    if b.kind == .parameter && !acc.any (fun c => c.scope == b.scope && c.name == b.name)
    then acc ++ [b] else acc) []

/-- The unused parameters of a function: in `after-used` mode only those after the last
parameter that is read. -/
def Subject.unusedParameters (s : Subject) (afterUsed : Bool) (ignore : Option Regex)
    (fn : Node) : List Finding :=
  let params := (s.parameters fn).zipIdx
  let lastUsed : Int := params.foldl (fun acc (b, i) => if s.neverRead b then acc else i) (-1)
  params.filterMap fun (b, i) =>
    if !s.neverRead b || ignored ignore b.name then none
    else if afterUsed && (i : Int) < lastUsed then none
    else s.unused b

/-- `no-unused-vars`. -/
def noUnusedVars (s : Subject) (options : List Value) : Except Refusal (List Finding) := do
  let settings := match options.head? with
    | some (.str v) => [("vars", Value.str v)]
    | _ => optionFields options 0
  let get (k : String) (d : String) : Value := (settings.lookup k).getD (.str d)
  let varsMode := get "vars" "all"
  let argsMode := get "args" "after-used"
  let caughtMode := get "caughtErrors" "all"
  let varsIgnore ← compile? (settings.lookup "varsIgnorePattern")
  let argsIgnore ← compile? (settings.lookup "argsIgnorePattern")
  let caughtIgnore ← compile? (settings.lookup "caughtErrorsIgnorePattern")
  let isStr (v : Value) (t : String) : Bool := match v with
    | .str x => x == t
    | _ => false
  let bindings := s.arena.allBindings.filterMap fun b =>
    if b.exported || b.identifiers.isEmpty || !s.neverRead b then none
    else if b.kind == .parameter || b.kind == .functionName then none
    else if b.kind == .caught then
      if isStr caughtMode "none" || ignored caughtIgnore b.name then none else s.unused b
    else if isStr varsMode "local" && b.scope == moduleScope then none
    else if ignored varsIgnore b.name then none
    else s.unused b
  let params := if isStr argsMode "none" then []
    else (s.nodes.filter Node.isFunction).flatMap
      (s.unusedParameters (isStr argsMode "after-used") argsIgnore)
  return bindings ++ params

/-- The member a node writes a property of: by assignment, `++` or `--`, or `delete`. -/
def propertyTarget? : Node → Option Node
  | .assignmentExpression _ _ l@(.memberExpression ..) _ => some l
  | .updateExpression _ _ a@(.memberExpression ..) _ => some a
  | .unaryExpression _ "delete" a@(.memberExpression ..) => some a
  | _ => none

/-- `no-param-reassign`. -/
def noParamReassign (s : Subject) (options : List Value) : Except Refusal (List Finding) := do
  let settings := optionFields options 0
  let writes := (s.arena.allBindings.filter (·.kind == .parameter)).flatMap fun b =>
    (s.writesTo b).map fun r =>
      { message := "Assignment to function parameter '" ++ b.name ++ "'.", span := r.span,
        hint := some "Assign the new value to a fresh const instead" }
  if !((settings.lookup "props").getD (.bool false)).truthy then return writes
  let exempt ← collection (settings.lookup "ignorePropertyModificationsFor")
  let props := s.nodes.filterMap fun n =>
    match propertyTarget? n with
    | some target =>
      match target.root with
      | .identifier sp name =>
        if exempt.any (fun v => match v with
            | .str x => x == name
            | _ => false) then none
        else match s.arena.referenceAt sp.start.offset with
          | some r =>
            match r.binding.bind s.arena.binding? with
            | some b =>
              if b.kind == .parameter then
                some { message := "Assignment to property of function parameter '" ++ name ++ "'.",
                       span := n.span }
              else none
            | none => none
          | none => none
      | _ => none
    | none => none
  return writes ++ props

/-! ## Functions and expressions -/

/-- The nodes below a function that share its `this`, each with whether it spells a
name: its children and their descendants, not entering functions other than arrows. -/
def lexicalNodes (n : Node) : List (Node × Bool) :=
  n.spelledChildren.attach.flatMap fun ⟨(c, spelled), _⟩ =>
    (c, spelled) ::
      (if c.isFunction && !(match c with
          | .arrowFunctionExpression .. => true
          | _ => false) then []
       else lexicalNodes c)
termination_by sizeOf n
decreasing_by exact Node.sizeOf_lt_of_mem_children (Node.mem_children_of_mem_spelledChildren ‹_›)

/-- Whether a function expression could be an arrow: not a generator, not naming
itself, and with no `this`, `super` or free `arguments` of its own. -/
def Subject.convertible (s : Subject) (fn : Node) : Bool :=
  match fn with
  | .functionExpression _ ident _ _ generator _ =>
    let namesItself := match ident with
      | some i =>
        match s.arena.declaredAt i.span.start.offset with
        | some key => !(s.arena.referencesOf key).isEmpty
        | none => false
      | none => false
    !generator && !namesItself &&
      (lexicalNodes fn).all fun (n, spelled) =>
        match n with
        | .thisExpression _ | .superExpression _ => false
        | _ => spelled || !s.isFree n "arguments"
  | _ => false

/-- `prefer-arrow-callback`. -/
def preferArrowCallback (s : Subject) (_ : List Value) : Except Refusal (List Finding) :=
  .ok (s.nodes.flatMap fun n =>
    let args := match n with
      | .callExpression _ _ args _ | .newExpression _ _ args => args
      | _ => []
    args.filterMap fun a =>
      match a with
      | .functionExpression sp .. =>
        if s.convertible a then
          some { message := "Unexpected function expression.", span := sp,
                 hint := some "Use an arrow function: (x) => ..." }
        else none
      | _ => none)

/-- Whether a node is the literal `null`. -/
def isNull : Node → Bool
  | .literal _ .null "null" _ _ => true
  | _ => false

/-- Whether a node is a `typeof` expression. -/
def isTypeof : Node → Bool
  | .unaryExpression _ "typeof" _ => true
  | _ => false

/-- Whether a node is a literal. -/
def isLiteral : Node → Bool
  | .literal .. => true
  | _ => false

/-- `eqeqeq`. -/
def eqeqeq (s : Subject) (options : List Value) : Except Refusal (List Finding) :=
  let smart := match options.head? with
    | some (.str "smart") => true
    | _ => false
  let ignoreNull := match (optionFields options 1).lookup "null" with
    | some (.str "ignore") => true
    | _ => false
  .ok (s.nodes.filterMap fun n =>
    match n with
    | .binaryExpression sp op l r =>
      if op != "==" && op != "!=" then none
      else
        let nullCompare := isNull l || isNull r
        let smartPair := isTypeof l || isTypeof r || (isLiteral l && isLiteral r)
        if smart && (nullCompare || smartPair) then none
        else if ignoreNull && nullCompare then none
        else some { message := "Expected '" ++ op ++ "=' and instead saw '" ++ op ++ "'.",
                    span := sp, hint := some ("Use '" ++ op ++ "=' for strict comparison") }
    | _ => none)

/-- `no-console`. -/
def noConsole (s : Subject) (options : List Value) : Except Refusal (List Finding) := do
  let allowed ← collection ((optionFields options 0).lookup "allow")
  let found ← s.nodes.mapM fun n =>
    match n with
    | .memberExpression sp obj .. =>
      if !s.isFree obj "console" then return none
      else do
        let property := match ← n.segment?.mapError PathFault.toRefusal with
          | some p => Value.str p
          | none => .null
        let isAllowed := allowed.any fun v => match v, property with
          | .str a, .str p => a == p
          | .null, .null => true
          | _, _ => false
        if isAllowed then return none
        else return some { message := "Unexpected console statement.", span := sp,
                           hint := some "Remove the console call" }
    | _ => return none
  return found.filterMap id

/-- `no-eval`. -/
def noEval (s : Subject) (_ : List Value) : Except Refusal (List Finding) := do
  let found ← s.nodes.mapM fun n =>
    match n with
    | .callExpression sp callee .. => do
      if ← s.callsGlobal callee ["eval"] then
        return some { message := "eval can be harmful.", span := sp }
      else return none
    | _ => return none
  return found.filterMap id

/-- Whether an expression is a string, a template, or a sum with one of them in it. -/
def isStringLike : Nat → Node → Bool
  | 0, _ => false
  | _ + 1, .literal _ (.string _) .. => true
  | _ + 1, .templateLiteral .. => true
  | k + 1, .binaryExpression _ "+" l r => isStringLike k l || isStringLike k r
  | _, _ => false

/-- `no-implied-eval`. -/
def noImpliedEval (s : Subject) (_ : List Value) : Except Refusal (List Finding) := do
  let found ← s.nodes.mapM fun n =>
    match n with
    | .callExpression sp callee (first :: _) _ => do
      if (← s.callsGlobal callee ["setTimeout", "setInterval", "execScript"]) &&
          isStringLike first.walkFuel first then
        return some { message := "Implied eval. Consider passing a function instead of a string.",
                      span := sp }
      else return none
    | _ => return none
  return found.filterMap id

/-- `no-new-func`. -/
def noNewFunc (s : Subject) (_ : List Value) : Except Refusal (List Finding) :=
  .ok (s.nodes.filterMap fun n =>
    match n with
    | .newExpression sp callee _ | .callExpression sp callee _ _ =>
      if s.isFree callee "Function" then
        some { message := "The Function constructor is eval.", span := sp }
      else none
    | _ => none)

/-- `no-debugger`. -/
def noDebugger (s : Subject) (_ : List Value) : Except Refusal (List Finding) :=
  .ok (s.nodes.filterMap fun n =>
    match n with
    | .debuggerStatement sp => some { message := "Unexpected 'debugger' statement.", span := sp }
    | _ => none)

/-! ## Functional style -/

/-- `functional/no-loop-statements`. -/
def noLoops (s : Subject) (_ : List Value) : Except Refusal (List Finding) :=
  .ok (s.nodes.filterMap fun n =>
    match n with
    | .forStatement sp .. | .forInStatement sp .. | .forOfStatement sp ..
    | .whileStatement sp .. | .doWhileStatement sp .. =>
      some { message := "Unexpected loop, use map or reduce instead.", span := sp }
    | _ => none)

/-- `functional/no-this-expressions`. -/
def noThis (s : Subject) (_ : List Value) : Except Refusal (List Finding) :=
  .ok (s.nodes.filterMap fun n =>
    match n with
    | .thisExpression sp => some { message := "Unexpected this, use functions not classes.", span := sp }
    | _ => none)

/-- A rule: what it finds in a subject under its options. -/
abbrev Rule := Subject → List Value → Except Refusal (List Finding)

/-- The rules by id. -/
def registry : List (String × Rule) :=
  [("no-var", noVar), ("prefer-const", preferConst),
   ("prefer-arrow-callback", preferArrowCallback), ("no-unused-vars", noUnusedVars),
   ("no-param-reassign", noParamReassign), ("eqeqeq", eqeqeq), ("no-console", noConsole),
   ("no-eval", noEval), ("no-implied-eval", noImpliedEval), ("no-new-func", noNewFunc),
   ("no-debugger", noDebugger), ("functional/no-loop-statements", noLoops),
   ("functional/no-this-expressions", noThis)]

/-- What each rule asks for, by id. -/
def summaries : List (String × String) :=
  [("no-var", "Require let or const instead of var"),
   ("prefer-const", "Require const for variables that are never reassigned"),
   ("no-unused-vars", "Disallow unused variables"),
   ("no-param-reassign", "Disallow reassignment of function parameters"),
   ("prefer-arrow-callback", "Require arrow functions as callbacks"),
   ("eqeqeq", "Require the use of === and !=="),
   ("no-console", "Disallow the use of console"),
   ("no-eval", "Disallow the use of eval()"),
   ("no-implied-eval", "Disallow the use of eval()-like methods"),
   ("no-new-func", "Disallow new operators with the Function object"),
   ("no-debugger", "Disallow the use of debugger"),
   ("functional/no-loop-statements", "Disallow imperative loops"),
   ("functional/no-this-expressions", "Disallow this access")]

end Style

end ScriptGate
