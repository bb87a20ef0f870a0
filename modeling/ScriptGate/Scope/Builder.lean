import ScriptGate.Scope.Arena

/-!
# Building the scopes of a program

One walk over the tree opens scopes, declares bindings and records references.
Declarations are hoisted when a scope opens: `var` declarations to the nearest
function or module scope, through blocks but not into nested functions or
classes; `let`, `const`, classes, functions and imports to the scope of their
statement list.  A reference then resolves against everything its scope can
see, including names declared later in the text.

Declaring is not referring: declarators, parameters, function and class names,
the specifiers of an import and `catch` parameters make bindings, not references.  Nor
are non-computed member properties, non-computed keys of objects and classes,
labels, private names and `new.target`.

An assignment target is written, and also read when the operator is compound;
`x++` both reads and writes `x`.

The walk descends from a node only to smaller nodes, its children or theirs, so
it ends on every tree.
-/

namespace ScriptGate

namespace ScopeBuilder

/-- The walk's state: the arena built so far. -/
abbrev ScopeM := StateM Arena

/-- Opens a scope of `kind` for `node` inside `parent`. -/
def addScope (kind : ScopeKind) (node : Node) (parent : Option Nat) : ScopeM Nat := do
  let a ← get
  let index := a.scopes.size
  let functionScope := match kind, parent with
    | .module, _ | .function, _ | _, none => index
    | _, some p => ((a.scope? p).map (·.functionScope)).getD index
  let scopes := a.scopes.push { index, kind, node, parent, functionScope }
  let scopes := match parent with
    | some p => scopes.modify p fun s => { s with children := s.children ++ [index] }
    | none => scopes
  set { a with scopes }
  return index

/-- Changes the binding a key names. -/
def updateBinding (key : BindingKey) (f : Binding → Binding) : ScopeM Unit :=
  modify fun a =>
    { a with scopes := a.scopes.modify key.1 fun s =>
        { s with bindings := s.bindings.map fun b => if b.name == key.2 then f b else b } }

/-- Declares the name of an identifier in scope `i`, as a binding of `kind` unless the
scope declares it already; gives the binding. -/
def declare (i : Nat) (ident : Node) (kind : BindingKind) : ScopeM (Option BindingKey) := do
  match ident with
  | .identifier sp name =>
    let a ← get
    match a.scope? i with
    | none => return none
    | some s =>
      let key : BindingKey := (i, name)
      if s.bindings.any (·.name == name) then
        updateBinding key fun b =>
          if b.identifiers.any (·.start.offset == sp.start.offset) then b
          else { b with identifiers := b.identifiers ++ [sp] }
      else
        let b : Binding :=
          { name, kind, scope := i, functionScope := s.functionScope, identifiers := [sp] }
        modify fun a => { a with scopes := a.scopes.modify i fun s =>
          { s with bindings := s.bindings ++ [b] } }
      modify fun a => { a with declared := (sp.start.offset, key) :: a.declared }
      return some key
  | _ => return none

/-- Declares a name whose binding starts with a value. -/
def declareInitialized (i : Nat) (ident : Node) (kind : BindingKind) : ScopeM Unit := do
  match ← declare i ident kind with
  | some key => updateBinding key fun b => { b with initialized := true }
  | none => pure ()

/-- Records a reference to an identifier in scope `i`; gives the binding it resolves to. -/
def addReference (ident : Node) (i : Nat) (read write : Bool) : ScopeM (Option BindingKey) := do
  match ident with
  | .identifier sp name =>
    let a ← get
    let binding := a.resolve name i
    let functionScope := ((a.scope? i).map (·.functionScope)).getD i
    let r : Reference :=
      { name, span := sp, scope := i, functionScope, binding, isRead := read, isWrite := write }
    set { a with references := a.references.push r }
    return binding
  | _ => return none

/-- Whether a node is a class. -/
def isClass : Node → Bool
  | .classDeclaration .. | .classExpression .. => true
  | _ => false

mutual

/-- The identifiers a binding or assignment pattern introduces, in order. -/
def patternIdentifiers : Node → List Node
  | p@(.identifier ..) => [p]
  | .objectPattern _ props => propertyIdentifiers props
  | .arrayPattern _ es => elementIdentifiers es
  | .restElement _ a => patternIdentifiers a
  | .assignmentPattern _ l _ => patternIdentifiers l
  | _ => []
termination_by structural p => p

/-- The identifiers the properties of an object pattern introduce: the value of a
property, any other entry (a rest element) whole. -/
def propertyIdentifiers : List Node → List Node
  | [] => []
  | .property _ _ v .. :: props => patternIdentifiers v ++ propertyIdentifiers props
  | p :: props => patternIdentifiers p ++ propertyIdentifiers props
termination_by structural props => props

/-- The identifiers the elements of an array pattern introduce; holes introduce none. -/
def elementIdentifiers : List (Option Node) → List Node
  | [] => []
  | some e :: es => patternIdentifiers e ++ elementIdentifiers es
  | none :: es => elementIdentifiers es
termination_by structural es => es

end

/-- Declares every `var` below a node that is not inside a nested function or class. -/
def hoistVars (node : Node) (scope : Nat) : ScopeM Unit :=
  node.children.attach.forM fun ⟨child, _⟩ => do
    if child.isFunction || isClass child then return
    match child with
    | .variableDeclaration _ ds .var =>
      ds.forM fun d => match d with
        | .variableDeclarator _ target _ =>
          (patternIdentifiers target).forM fun ident => do let _ ← declare scope ident .var
        | _ => pure ()
    | _ => pure ()
    hoistVars child scope
termination_by sizeOf node
decreasing_by exact Node.sizeOf_lt_of_mem_children ‹_›

/-- Declares the `let`, `const`, class, function and import bindings of a statement list. -/
def hoistLexical (statements : List Node) (scope : Nat) : ScopeM Unit :=
  statements.forM fun statement => do
    let declared := match statement with
      | .exportNamedDeclaration _ d .. => d
      | .exportDefaultDeclaration _ d => some d
      | s => some s
    match declared with
    | some (.variableDeclaration _ ds kind) =>
      if kind != .var then
        ds.forM fun d => match d with
          | .variableDeclarator _ target _ =>
            (patternIdentifiers target).forM fun ident => do
              let _ ← declare scope ident kind.binding
          | _ => pure ()
    | some (.functionDeclaration _ (some ident) ..) => do let _ ← declare scope ident .function
    | some (.classDeclaration _ (some ident) ..) => do let _ ← declare scope ident .classDecl
    | some (.importDeclaration _ specs _) =>
      specs.forM fun spec => match spec with
        | .importSpecifier _ _ l | .importDefaultSpecifier _ l | .importNamespaceSpecifier _ l =>
          do let _ ← declare scope l .imported
        | _ => pure ()
    | _ => pure ()

/-- Marks the bindings a pattern declares as given a value. -/
def markInitialized (pattern : Node) : ScopeM Unit :=
  (patternIdentifiers pattern).forM fun ident => do
    match (← get).declaredAt ident.span.start.offset with
    | some key => updateBinding key fun b => { b with initialized := true }
    | none => pure ()

/-- Marks the bindings an exported declaration makes as exported. -/
def markExported (declaration : Node) : ScopeM Unit := do
  let idents : List Node := match declaration with
    | .variableDeclaration _ ds _ => ds.flatMap fun (d : Node) => match d with
      | .variableDeclarator _ target _ => patternIdentifiers target
      | _ => []
    | .functionDeclaration _ (some ident) .. | .classDeclaration _ (some ident) .. => [ident]
    | _ => []
  idents.forM fun ident => do
    match (← get).declaredAt ident.span.start.offset with
    | some key => updateBinding key fun b => { b with exported := true }
    | none => pure ()

mutual

/-- Walks a node in scope `scope`. -/
def visit (node : Node) (scope : Nat) : ScopeM Unit :=
  match node with
  | .program _ body _ => do
    let m ← addScope .module node none
    hoistVars node m
    hoistLexical body m
    visitAll body m
  | .identifier .. => do let _ ← addReference node scope true false
  | f@(.functionDeclaration _ ident ..) => do
    match ident with
    | some i =>
      if ((← get).declaredAt i.span.start.offset).isNone then
        let _ ← declare scope i .function
    | none => pure ()
    function f scope
  | f@(.functionExpression _ ident ..) => do
    match ident with
    | some i =>
      let nameScope ← addScope .functionName i (some scope)
      let _ ← declare nameScope i .functionName
      function f nameScope
    | none => function f scope
  | f@(.arrowFunctionExpression ..) => function f scope
  | .blockStatement _ body => do
    let b ← addScope .block node (some scope)
    hoistLexical body b
    visitAll body b
  | .variableDeclaration _ ds kind =>
    ds.attach.forM fun ⟨d, _⟩ => match d with
      | .variableDeclarator _ target init => do
        (patternIdentifiers target).forM fun ident => do
          if ((← get).declaredAt ident.span.start.offset).isNone then
            let _ ← declare scope ident kind.binding
        patternExpressions target scope
        match _hv : init with
        | some v => do markInitialized target; visit v scope
        | none => pure ()
      | _ => pure ()
  | .assignmentExpression _ op l r => do
    target l scope (op != "=")
    visit r scope
  | .updateExpression _ _ a _ =>
    match _ha : a with
    | .identifier .. => do let _ ← addReference a scope true true
    | _ => visit a scope
  | .memberExpression _ o p computed _ => do
    visit o scope
    if computed then visit p scope
  | .property _ k v _ computed _ _ => do
    if computed then visit k scope
    visit v scope
  | .methodDefinition _ k computed v _ _ => do
    if computed then visit k scope
    visit v scope
  | .propertyDefinition _ k computed v _ => do
    if computed then visit k scope
    visitOption v scope
  | .staticBlock _ body => do
    let b ← addScope .function node (some scope)
    hoistVars node b
    hoistLexical body b
    visitAll body b
  | .privateIdentifier .. | .breakStatement .. | .continueStatement .. | .metaProperty ..
  | .importDeclaration .. | .exportAllDeclaration .. => pure ()
  | .classDeclaration _ ident superClass body => do
    match ident with
    | some i =>
      if ((← get).declaredAt i.span.start.offset).isNone then
        let _ ← declare scope i .classDecl
    | none => pure ()
    visitOption superClass scope
    let c ← addScope .classBody node (some scope)
    visit body c
  | .classExpression _ ident superClass body => do
    visitOption superClass scope
    let c ← addScope .classBody node (some scope)
    match ident with
    | some i => do let _ ← declare c i .classDecl
    | none => pure ()
    visit body c
  | .forStatement _ init test update body => do
    let s ← match init with
      | some d@(.variableDeclaration _ _ kind) =>
        if kind != .var then do
          let s ← addScope .loopHead node (some scope)
          hoistLexical [d] s
          pure s
        else pure scope
      | _ => pure scope
    visitOption init s
    visitOption test s
    visitOption update s
    visit body s
  | .forInStatement _ left right body | .forOfStatement _ left right body => do
    visit right scope
    match _hl : left with
    | .variableDeclaration _ ds kind =>
      let s ← if kind != .var then do
          let s ← addScope .loopHead node (some scope)
          hoistLexical [left] s
          pure s
        else pure scope
      ds.attach.forM fun ⟨d, _⟩ => match d with
        | .variableDeclarator _ t _ => do
          markInitialized t
          patternExpressions t s
        | _ => pure ()
      visit body s
    | _ => do
      target left scope false
      visit body scope
  | .catchClause _ param body => do
    let c ← addScope .catchClause node (some scope)
    match param with
    | some p => do
      (patternIdentifiers p).forM fun ident => declareInitialized c ident .caught
      patternExpressions p c
    | none => pure ()
    visit body c
  | .switchStatement _ disc cases => do
    visit disc scope
    let s ← addScope .switchBody node (some scope)
    cases.forM fun c => match c with
      | .switchCase _ _ cons => hoistLexical cons s
      | _ => pure ()
    cases.attach.forM fun ⟨c, _⟩ => match c with
      | .switchCase _ test cons => do
        visitOption test s
        visitAll cons s
      | _ => pure ()
  | .labeledStatement _ _ body => visit body scope
  | .exportNamedDeclaration _ decl specs source =>
    match decl with
    | some d => do
      visit d scope
      markExported d
    | none =>
      if source.isNone then
        specs.forM fun spec => match spec with
          | .exportSpecifier _ l _ => do
            match ← addReference l scope true false with
            | some key => updateBinding key fun b => { b with exported := true }
            | none => pure ()
          | _ => pure ()
      else pure ()
  | .exportDefaultDeclaration _ d => do
    visit d scope
    markExported d
  | other => other.children.attach.forM fun ⟨x, _⟩ => visit x scope
termination_by 2 * sizeOf node + 1
decreasing_by
  all_goals
    subst_vars
    first
    | (simp <;> omega)
    | (have hs := Node.sizeOf_lt_of_mem_children ‹_›; simp at hs ⊢ <;> omega)
    | (have hs := List.sizeOf_lt_of_mem ‹_ ∈ _›; simp at hs ⊢ <;> omega)

/-- Walks nodes in order. -/
def visitAll (nodes : List Node) (scope : Nat) : ScopeM Unit :=
  nodes.attach.forM fun ⟨x, _⟩ => visit x scope
termination_by 2 * sizeOf nodes + 1
decreasing_by
  all_goals
    subst_vars
    first
    | (simp <;> omega)
    | (have hs := Node.sizeOf_lt_of_mem_children ‹_›; simp at hs ⊢ <;> omega)
    | (have hs := List.sizeOf_lt_of_mem ‹_ ∈ _›; simp at hs ⊢ <;> omega)

/-- Walks a node that may be absent. -/
def visitOption (node : Option Node) (scope : Nat) : ScopeM Unit :=
  match node with
  | some x => visit x scope
  | none => pure ()
termination_by 2 * sizeOf node + 1
decreasing_by
  all_goals
    subst_vars
    first
    | (simp <;> omega)
    | (have hs := Node.sizeOf_lt_of_mem_children ‹_›; simp at hs ⊢ <;> omega)
    | (have hs := List.sizeOf_lt_of_mem ‹_ ∈ _›; simp at hs ⊢ <;> omega)

/-- Opens the scope of a function inside `parent`: its parameters, then its body,
whose statements are hoisted into the function scope itself. -/
def function (node : Node) (parent : Nat) : ScopeM Unit :=
  match node with
  | .functionDeclaration _ _ params body .. | .functionExpression _ _ params body ..
  | .arrowFunctionExpression _ params body .. => do
    let f ← addScope .function node (some parent)
    params.attach.forM fun ⟨p, _⟩ => do
      (patternIdentifiers p).forM fun ident => declareInitialized f ident .parameter
      patternExpressions p f
    match _hb : body with
    | .blockStatement _ stmts => do
      hoistVars body f
      hoistLexical stmts f
      visitAll stmts f
    | _ => visit body f
  | _ => pure ()
termination_by 2 * sizeOf node
decreasing_by
  all_goals
    subst_vars
    first
    | (simp <;> omega)
    | (have hs := Node.sizeOf_lt_of_mem_children ‹_›; simp at hs ⊢ <;> omega)
    | (have hs := List.sizeOf_lt_of_mem ‹_ ∈ _›; simp at hs ⊢ <;> omega)

/-- Walks the default values and computed keys inside a declaration pattern. -/
def patternExpressions (p : Node) (scope : Nat) : ScopeM Unit :=
  match p with
  | .assignmentPattern _ l r => do
    patternExpressions l scope
    visit r scope
  | .objectPattern _ props =>
    props.attach.forM fun ⟨prop, _⟩ => match prop with
      | .property _ k v _ computed _ _ => do
        if computed then visit k scope
        patternExpressions v scope
      | other => patternExpressions other scope
  | .arrayPattern _ es =>
    es.attach.forM fun ⟨e, _⟩ => match e with
      | some e => patternExpressions e scope
      | none => pure ()
  | .restElement _ a => patternExpressions a scope
  | _ => pure ()
termination_by 2 * sizeOf p + 1
decreasing_by
  all_goals
    subst_vars
    first
    | (simp <;> omega)
    | (have hs := Node.sizeOf_lt_of_mem_children ‹_›; simp at hs ⊢ <;> omega)
    | (have hs := List.sizeOf_lt_of_mem ‹_ ∈ _›; simp at hs ⊢ <;> omega)

/-- Records the writes of an assignment target; `read` for compound assignments. -/
def target (t : Node) (scope : Nat) (read : Bool) : ScopeM Unit :=
  match t with
  | .identifier .. => do let _ ← addReference t scope read true
  | .assignmentPattern _ l r => do
    target l scope read
    visit r scope
  | .objectPattern _ props =>
    props.attach.forM fun ⟨prop, _⟩ => match prop with
      | .property _ k v _ computed _ _ => do
        if computed then visit k scope
        target v scope read
      | other => target other scope read
  | .arrayPattern _ es =>
    es.attach.forM fun ⟨e, _⟩ => match e with
      | some e => target e scope read
      | none => pure ()
  | .restElement _ a => target a scope read
  | other => visit other scope
termination_by 2 * sizeOf t + 2
decreasing_by
  all_goals
    subst_vars
    first
    | (simp <;> omega)
    | (have hs := Node.sizeOf_lt_of_mem_children ‹_›; simp at hs ⊢ <;> omega)
    | (have hs := List.sizeOf_lt_of_mem ‹_ ∈ _›; simp at hs ⊢ <;> omega)

end

end ScopeBuilder

/-- The scopes of a program. -/
def analyzeScopes (program : Node) : Arena :=
  ((ScopeBuilder.visit program moduleScope).run {}).2

end ScriptGate
