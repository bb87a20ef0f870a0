import ScriptGate.Syntax.Tree

/-!
# Scopes, bindings and references

The scopes of a program live in an arena, an array indexed from 0, the module
scope first.  Each scope names its parent by index, and the index of its
nearest enclosing function scope: the module scope and function scopes are
their own.  A scope is appended when it opens, so a parent always has a smaller
index than its children.

A *binding* is a name declared in a scope; it is known by its scope index and
its name, since a scope declares each name once.  A *reference* is one
identifier read or written where it names something; it resolves to the
nearest binding of its name in the chain of parents, or stays free.

Identifiers are told apart by where they start in the text: two identifiers
that the analysis declares or resolves never start at the same place.
-/

namespace ScriptGate

/-- The kinds of scope. -/
inductive ScopeKind where
  /-- The whole program. -/
  | module
  /-- A function body, with its parameters; also a class static block. -/
  | function
  /-- The name of a named function expression, seen only inside it. -/
  | functionName
  /-- A block. -/
  | block
  /-- The head of a `for` loop that declares with `let` or `const`. -/
  | loopHead
  /-- The body of a `switch`. -/
  | switchBody
  /-- A `catch` clause. -/
  | catchClause
  /-- A class body. -/
  | classBody
deriving Repr, DecidableEq, Inhabited

/-- The name of a kind of scope. -/
def ScopeKind.name : ScopeKind → String
  | .module => "module"
  | .function => "function"
  | .functionName => "function-name"
  | .block => "block"
  | .loopHead => "for"
  | .switchBody => "switch"
  | .catchClause => "catch"
  | .classBody => "class"

/-- The kinds of binding. -/
inductive BindingKind where
  /-- A parameter of a function. -/
  | parameter
  /-- A `var` declaration. -/
  | var
  /-- A `let` declaration. -/
  | lexicalLet
  /-- A `const` declaration. -/
  | lexicalConst
  /-- A function declaration. -/
  | function
  /-- A class declaration or the name of a class expression. -/
  | classDecl
  /-- An imported name. -/
  | imported
  /-- The parameter of a `catch` clause. -/
  | caught
  /-- The name of a named function expression. -/
  | functionName
deriving Repr, DecidableEq, Inhabited

/-- The name of a kind of binding. -/
def BindingKind.name : BindingKind → String
  | .parameter => "parameter"
  | .var => "var"
  | .lexicalLet => "let"
  | .lexicalConst => "const"
  | .function => "function"
  | .classDecl => "class"
  | .imported => "import"
  | .caught => "catch"
  | .functionName => "function-name"

/-- The binding kind of a declaration keyword. -/
def DeclarationKind.binding : DeclarationKind → BindingKind
  | .var => .var
  | .lexicalLet => .lexicalLet
  | .lexicalConst => .lexicalConst

/-- A binding is known by its scope and its name. -/
abbrev BindingKey := Nat × String

/-- A declared name. -/
structure Binding where
  /-- The name. -/
  name : String
  /-- How it was declared. -/
  kind : BindingKind
  /-- The scope that declares it. -/
  scope : Nat
  /-- The function scope of that scope. -/
  functionScope : Nat
  /-- The spans of the identifiers that declare it, in order. -/
  identifiers : List Span
  /-- Whether a declaration gives it a value. -/
  initialized : Bool := false
  /-- Whether the module exports it. -/
  exported : Bool := false
deriving Inhabited

/-- One identifier in a place where it names something. -/
structure Reference where
  /-- The name. -/
  name : String
  /-- The identifier's span. -/
  span : Span
  /-- The scope it occurs in. -/
  scope : Nat
  /-- The function scope of that scope. -/
  functionScope : Nat
  /-- The binding it resolves to, if any. -/
  binding : Option BindingKey
  /-- Whether its value is read. -/
  isRead : Bool
  /-- Whether it is assigned. -/
  isWrite : Bool
deriving Inhabited

/-- A scope. -/
structure Scope where
  /-- Its index in the arena. -/
  index : Nat
  /-- Its kind. -/
  kind : ScopeKind
  /-- The node that opens it. -/
  node : Node
  /-- The scope around it; the module scope has none. -/
  parent : Option Nat
  /-- Its nearest function scope: itself for the module and function scopes. -/
  functionScope : Nat
  /-- Its bindings, in the order they were declared. -/
  bindings : List Binding := []
  /-- The scopes opened directly inside it, in order. -/
  children : List Nat := []
deriving Inhabited

/-- The index of the module scope. -/
def moduleScope : Nat := 0

/-- The scopes, references and declarations of a program. -/
structure Arena where
  /-- The scopes, by index. -/
  scopes : Array Scope := #[]
  /-- The references, in the order they were made. -/
  references : Array Reference := #[]
  /-- Each declaring identifier, by where it starts, with the binding it declares. -/
  declared : List (Nat × BindingKey) := []
deriving Inhabited

namespace Arena

/-- The scope at an index. -/
def scope? (a : Arena) (i : Nat) : Option Scope := a.scopes[i]?

/-- The binding a key names. -/
def binding? (a : Arena) (key : BindingKey) : Option Binding :=
  (a.scope? key.1).bind fun s => s.bindings.find? (·.name == key.2)

/-- The binding visible under `name` from scope `i`: the first scope up the chain
of parents that declares it.  The chain is at most as long as the arena, since
each step goes to a smaller index. -/
def resolveFrom (a : Arena) (name : String) : Nat → Option Nat → Option BindingKey
  | 0, _ => none
  | _, none => none
  | n + 1, some i =>
    match a.scope? i with
    | none => none
    | some s =>
      if s.bindings.any (·.name == name) then some (i, name) else a.resolveFrom name n s.parent

/-- The binding visible under `name` from scope `i`. -/
def resolve (a : Arena) (name : String) (i : Nat) : Option BindingKey :=
  a.resolveFrom name (a.scopes.size + 1) (some i)

/-- The binding an identifier starting at `start` declares, if it declares one. -/
def declaredAt (a : Arena) (start : Nat) : Option BindingKey :=
  (a.declared.find? (·.1 == start)).map (·.2)

/-- The last reference made for an identifier starting at `start`. -/
def referenceAt (a : Arena) (start : Nat) : Option Reference :=
  a.references.toList.reverse.find? (·.span.start.offset == start)

/-- Whether a reference and its binding share a function scope below the module
scope. -/
def isLocal (a : Arena) (r : Reference) : Bool :=
  match r.binding with
  | some key =>
    match a.binding? key with
    | some b => b.scope != moduleScope && b.functionScope == r.functionScope
    | none => false
  | none => false

/-- The references that resolve to a binding, in order. -/
def referencesOf (a : Arena) (key : BindingKey) : List Reference :=
  a.references.toList.filter (·.binding == some key)

/-- The free references, in order. -/
def through (a : Arena) : List Reference :=
  a.references.toList.filter (·.binding.isNone)

/-- Every binding, scope by scope. -/
def allBindings (a : Arena) : List Binding :=
  a.scopes.toList.flatMap (·.bindings)

/-- The scope a node opens, found by its kind and its span. -/
def scopeOf (a : Arena) (n : Node) : Option Scope :=
  a.scopes.toList.find? fun s =>
    s.node.typeName == n.typeName && s.node.span.start.offset == n.span.start.offset &&
      s.node.span.stop.offset == n.span.stop.offset

end Arena

end ScriptGate
