import ScriptGate.Syntax.Place

/-!
# The syntax tree

One constructor per kind of node of the ESTree shape: statements, declarations,
module items, expressions and patterns.  Every node carries its span.  A child
that may be absent is an `Option`, a list of children is a `List`, and the
elements of an array literal or array pattern are `Option`s, `none` standing
for a hole (`[a, , b]`).

A few choices are fixed once here.

* A parenthesized expression is its inner expression; parentheses leave no node.
* A sequence lists its expressions flat: `(a, (b, c))` has three.
* An optional chain `a?.b.c` is one `chainExpression` around its outermost
  link; the links inside carry `optional` where `?.` stands.
* A method's value is a `functionExpression` whose span runs from its parameter
  list to the end of its body.
* The kind of a declaration is one of its three keywords (`DeclarationKind`);
  the operators are kept as their source text.
-/

namespace ScriptGate

/-- The keyword of a variable declaration. -/
inductive DeclarationKind where
  /-- `var` -/
  | var
  /-- `let` -/
  | lexicalLet
  /-- `const` -/
  | lexicalConst
deriving DecidableEq, Repr, Inhabited

/-- The keyword as it is written. -/
def DeclarationKind.keyword : DeclarationKind → String
  | .var => "var"
  | .lexicalLet => "let"
  | .lexicalConst => "const"

/-- The value a literal stands for. -/
inductive LiteralValue where
  /-- A string, after its escapes are read. -/
  | string (text : String)
  /-- An integer, also the value of a BigInt. -/
  | int (value : Int)
  /-- A number with a fraction or an exponent. -/
  | float (value : Float)
  /-- `true` or `false`. -/
  | bool (value : Bool)
  /-- `null`, and the value of a regular expression. -/
  | null
deriving Inhabited

/-- A node of the syntax tree. -/
inductive Node where
  | program (span : Span) (body : List Node) (isModule : Bool)
  | expressionStatement (span : Span) (expression : Node)
  | blockStatement (span : Span) (body : List Node)
  | emptyStatement (span : Span)
  | debuggerStatement (span : Span)
  | withStatement (span : Span) (object body : Node)
  | returnStatement (span : Span) (argument : Option Node)
  | labeledStatement (span : Span) (label body : Node)
  | breakStatement (span : Span) (label : Option Node)
  | continueStatement (span : Span) (label : Option Node)
  | ifStatement (span : Span) (test consequent : Node) (alternate : Option Node)
  | switchStatement (span : Span) (discriminant : Node) (cases : List Node)
  | switchCase (span : Span) (test : Option Node) (consequent : List Node)
  | throwStatement (span : Span) (argument : Node)
  | tryStatement (span : Span) (block : Node) (handler finalizer : Option Node)
  | catchClause (span : Span) (param : Option Node) (body : Node)
  | whileStatement (span : Span) (test body : Node)
  | doWhileStatement (span : Span) (body test : Node)
  | forStatement (span : Span) (init test update : Option Node) (body : Node)
  | forInStatement (span : Span) (left right body : Node)
  | forOfStatement (span : Span) (left right body : Node)
  | functionDeclaration (span : Span) (ident : Option Node) (params : List Node) (body : Node)
      (generator isAsync : Bool)
  | variableDeclaration (span : Span) (declarations : List Node) (kind : DeclarationKind)
  | variableDeclarator (span : Span) (ident : Node) (init : Option Node)
  | classDeclaration (span : Span) (ident superClass : Option Node) (body : Node)
  | classBody (span : Span) (body : List Node)
  | methodDefinition (span : Span) (key : Node) (computed : Bool) (value : Node) (kind : String)
      (isStatic : Bool)
  | propertyDefinition (span : Span) (key : Node) (computed : Bool) (value : Option Node)
      (isStatic : Bool)
  | staticBlock (span : Span) (body : List Node)
  | importDeclaration (span : Span) (specifiers : List Node) (source : Node)
  | importSpecifier (span : Span) (imported localName : Node)
  | importDefaultSpecifier (span : Span) (localName : Node)
  | importNamespaceSpecifier (span : Span) (localName : Node)
  | exportNamedDeclaration (span : Span) (declaration : Option Node) (specifiers : List Node)
      (source : Option Node)
  | exportSpecifier (span : Span) (localName exported : Node)
  | exportDefaultDeclaration (span : Span) (declaration : Node)
  | exportAllDeclaration (span : Span) (source : Node) (exported : Option Node)
  | identifier (span : Span) (name : String)
  | privateIdentifier (span : Span) (name : String)
  | literal (span : Span) (value : LiteralValue) (raw : String) (regex : Option (String × String))
      (bigint : Option String)
  | thisExpression (span : Span)
  | superExpression (span : Span)
  | arrayExpression (span : Span) (elements : List (Option Node))
  | objectExpression (span : Span) (properties : List Node)
  | property (span : Span) (key value : Node) (kind : String) (computed method shorthand : Bool)
  | functionExpression (span : Span) (ident : Option Node) (params : List Node) (body : Node)
      (generator isAsync : Bool)
  | arrowFunctionExpression (span : Span) (params : List Node) (body : Node)
      (expression isAsync : Bool)
  | classExpression (span : Span) (ident superClass : Option Node) (body : Node)
  | templateLiteral (span : Span) (quasis expressions : List Node)
  | templateElement (span : Span) (raw cooked : String) (tail : Bool)
  | taggedTemplateExpression (span : Span) (tag quasi : Node)
  | unaryExpression (span : Span) (operator : String) (argument : Node)
  | updateExpression (span : Span) (operator : String) (argument : Node) (isPrefix : Bool)
  | binaryExpression (span : Span) (operator : String) (left right : Node)
  | logicalExpression (span : Span) (operator : String) (left right : Node)
  | assignmentExpression (span : Span) (operator : String) (left right : Node)
  | conditionalExpression (span : Span) (test consequent alternate : Node)
  | callExpression (span : Span) (callee : Node) (arguments : List Node) (optional : Bool)
  | newExpression (span : Span) (callee : Node) (arguments : List Node)
  | memberExpression (span : Span) (object property : Node) (computed optional : Bool)
  | chainExpression (span : Span) (expression : Node)
  | sequenceExpression (span : Span) (expressions : List Node)
  | yieldExpression (span : Span) (argument : Option Node) (delegate : Bool)
  | awaitExpression (span : Span) (argument : Node)
  | metaProperty (span : Span) (metaName property : Node)
  | importExpression (span : Span)
  | spreadElement (span : Span) (argument : Node)
  | objectPattern (span : Span) (properties : List Node)
  | arrayPattern (span : Span) (elements : List (Option Node))
  | restElement (span : Span) (argument : Node)
  | assignmentPattern (span : Span) (left right : Node)
deriving Inhabited

namespace Node

/-- The span of a node. -/
def span : Node → Span
  | program s .. | expressionStatement s .. | blockStatement s .. | emptyStatement s
  | debuggerStatement s | withStatement s .. | returnStatement s .. | labeledStatement s ..
  | breakStatement s .. | continueStatement s .. | ifStatement s .. | switchStatement s ..
  | switchCase s .. | throwStatement s .. | tryStatement s .. | catchClause s ..
  | whileStatement s .. | doWhileStatement s .. | forStatement s .. | forInStatement s ..
  | forOfStatement s .. | functionDeclaration s .. | variableDeclaration s ..
  | variableDeclarator s .. | classDeclaration s .. | classBody s .. | methodDefinition s ..
  | propertyDefinition s .. | staticBlock s .. | importDeclaration s .. | importSpecifier s ..
  | importDefaultSpecifier s .. | importNamespaceSpecifier s .. | exportNamedDeclaration s ..
  | exportSpecifier s .. | exportDefaultDeclaration s .. | exportAllDeclaration s ..
  | identifier s .. | privateIdentifier s .. | literal s .. | thisExpression s
  | superExpression s | arrayExpression s .. | objectExpression s .. | property s ..
  | functionExpression s .. | arrowFunctionExpression s .. | classExpression s ..
  | templateLiteral s .. | templateElement s .. | taggedTemplateExpression s ..
  | unaryExpression s .. | updateExpression s .. | binaryExpression s .. | logicalExpression s ..
  | assignmentExpression s .. | conditionalExpression s .. | callExpression s ..
  | newExpression s .. | memberExpression s .. | chainExpression s .. | sequenceExpression s ..
  | yieldExpression s .. | awaitExpression s .. | metaProperty s .. | importExpression s
  | spreadElement s .. | objectPattern s .. | arrayPattern s .. | restElement s ..
  | assignmentPattern s .. => s

/-- The ESTree name of the kind of a node. -/
def typeName : Node → String
  | program .. => "Program"
  | expressionStatement .. => "ExpressionStatement"
  | blockStatement .. => "BlockStatement"
  | emptyStatement .. => "EmptyStatement"
  | debuggerStatement .. => "DebuggerStatement"
  | withStatement .. => "WithStatement"
  | returnStatement .. => "ReturnStatement"
  | labeledStatement .. => "LabeledStatement"
  | breakStatement .. => "BreakStatement"
  | continueStatement .. => "ContinueStatement"
  | ifStatement .. => "IfStatement"
  | switchStatement .. => "SwitchStatement"
  | switchCase .. => "SwitchCase"
  | throwStatement .. => "ThrowStatement"
  | tryStatement .. => "TryStatement"
  | catchClause .. => "CatchClause"
  | whileStatement .. => "WhileStatement"
  | doWhileStatement .. => "DoWhileStatement"
  | forStatement .. => "ForStatement"
  | forInStatement .. => "ForInStatement"
  | forOfStatement .. => "ForOfStatement"
  | functionDeclaration .. => "FunctionDeclaration"
  | variableDeclaration .. => "VariableDeclaration"
  | variableDeclarator .. => "VariableDeclarator"
  | classDeclaration .. => "ClassDeclaration"
  | classBody .. => "ClassBody"
  | methodDefinition .. => "MethodDefinition"
  | propertyDefinition .. => "PropertyDefinition"
  | staticBlock .. => "StaticBlock"
  | importDeclaration .. => "ImportDeclaration"
  | importSpecifier .. => "ImportSpecifier"
  | importDefaultSpecifier .. => "ImportDefaultSpecifier"
  | importNamespaceSpecifier .. => "ImportNamespaceSpecifier"
  | exportNamedDeclaration .. => "ExportNamedDeclaration"
  | exportSpecifier .. => "ExportSpecifier"
  | exportDefaultDeclaration .. => "ExportDefaultDeclaration"
  | exportAllDeclaration .. => "ExportAllDeclaration"
  | identifier .. => "Identifier"
  | privateIdentifier .. => "PrivateIdentifier"
  | literal .. => "Literal"
  | thisExpression .. => "ThisExpression"
  | superExpression .. => "Super"
  | arrayExpression .. => "ArrayExpression"
  | objectExpression .. => "ObjectExpression"
  | property .. => "Property"
  | functionExpression .. => "FunctionExpression"
  | arrowFunctionExpression .. => "ArrowFunctionExpression"
  | classExpression .. => "ClassExpression"
  | templateLiteral .. => "TemplateLiteral"
  | templateElement .. => "TemplateElement"
  | taggedTemplateExpression .. => "TaggedTemplateExpression"
  | unaryExpression .. => "UnaryExpression"
  | updateExpression .. => "UpdateExpression"
  | binaryExpression .. => "BinaryExpression"
  | logicalExpression .. => "LogicalExpression"
  | assignmentExpression .. => "AssignmentExpression"
  | conditionalExpression .. => "ConditionalExpression"
  | callExpression .. => "CallExpression"
  | newExpression .. => "NewExpression"
  | memberExpression .. => "MemberExpression"
  | chainExpression .. => "ChainExpression"
  | sequenceExpression .. => "SequenceExpression"
  | yieldExpression .. => "YieldExpression"
  | awaitExpression .. => "AwaitExpression"
  | metaProperty .. => "MetaProperty"
  | importExpression .. => "Import"
  | spreadElement .. => "SpreadElement"
  | objectPattern .. => "ObjectPattern"
  | arrayPattern .. => "ArrayPattern"
  | restElement .. => "RestElement"
  | assignmentPattern .. => "AssignmentPattern"

/-- The children of a node in field order, holes of arrays left out. -/
def children : Node → List Node
  | program _ body _ => body
  | expressionStatement _ e => [e]
  | blockStatement _ body => body
  | emptyStatement _ | debuggerStatement _ => []
  | withStatement _ o b => [o, b]
  | returnStatement _ a => a.toList
  | labeledStatement _ l b => [l, b]
  | breakStatement _ l | continueStatement _ l => l.toList
  | ifStatement _ t c a => [t, c] ++ a.toList
  | switchStatement _ d cs => d :: cs
  | switchCase _ t cs => t.toList ++ cs
  | throwStatement _ a => [a]
  | tryStatement _ b h f => [b] ++ h.toList ++ f.toList
  | catchClause _ p b => p.toList ++ [b]
  | whileStatement _ t b => [t, b]
  | doWhileStatement _ b t => [b, t]
  | forStatement _ i t u b => i.toList ++ t.toList ++ u.toList ++ [b]
  | forInStatement _ l r b | forOfStatement _ l r b => [l, r, b]
  | functionDeclaration _ i ps b _ _ => i.toList ++ ps ++ [b]
  | variableDeclaration _ ds _ => ds
  | variableDeclarator _ i v => [i] ++ v.toList
  | classDeclaration _ i s b => i.toList ++ s.toList ++ [b]
  | classBody _ body => body
  | methodDefinition _ k _ v _ _ => [k, v]
  | propertyDefinition _ k _ v _ => [k] ++ v.toList
  | staticBlock _ body => body
  | importDeclaration _ ss src => ss ++ [src]
  | importSpecifier _ i l => [i, l]
  | importDefaultSpecifier _ l | importNamespaceSpecifier _ l => [l]
  | exportNamedDeclaration _ d ss src => d.toList ++ ss ++ src.toList
  | exportSpecifier _ l e => [l, e]
  | exportDefaultDeclaration _ d => [d]
  | exportAllDeclaration _ src e => [src] ++ e.toList
  | identifier .. | privateIdentifier .. | literal .. | thisExpression _ | superExpression _ => []
  | arrayExpression _ es => es.filterMap id
  | objectExpression _ ps => ps
  | property _ k v _ _ _ _ => [k, v]
  | functionExpression _ i ps b _ _ => i.toList ++ ps ++ [b]
  | arrowFunctionExpression _ ps b _ _ => ps ++ [b]
  | classExpression _ i s b => i.toList ++ s.toList ++ [b]
  | templateLiteral _ qs es => qs ++ es
  | templateElement .. => []
  | taggedTemplateExpression _ t q => [t, q]
  | unaryExpression _ _ a => [a]
  | updateExpression _ _ a _ => [a]
  | binaryExpression _ _ l r | logicalExpression _ _ l r | assignmentExpression _ _ l r => [l, r]
  | conditionalExpression _ t c a => [t, c, a]
  | callExpression _ c as _ => c :: as
  | newExpression _ c as => c :: as
  | memberExpression _ o p _ _ => [o, p]
  | chainExpression _ e => [e]
  | sequenceExpression _ es => es
  | yieldExpression _ a _ => a.toList
  | awaitExpression _ a => [a]
  | metaProperty _ m p => [m, p]
  | importExpression _ => []
  | spreadElement _ a => [a]
  | objectPattern _ ps => ps
  | arrayPattern _ es => es.filterMap id
  | restElement _ a => [a]
  | assignmentPattern _ l r => [l, r]

/-- The children of a node in order, each with whether it spells a name rather than
using one: a key that is not computed, the property after a dot, the name a
specifier imports or exports under, the two words of a meta property.  Such a
child may share its place in the text with a child that uses the name, as the
key and the value of a shorthand property do. -/
def spelledChildren : Node → List (Node × Bool)
  | memberExpression _ o p computed _ => [(o, false), (p, !computed)]
  | property _ k v _ computed _ _ => [(k, !computed), (v, false)]
  | methodDefinition _ k computed v _ _ => [(k, !computed), (v, false)]
  | propertyDefinition _ k computed v _ => (k, !computed) :: v.toList.map fun x => (x, false)
  | exportSpecifier _ l e => [(l, false), (e, true)]
  | importSpecifier _ i l => [(i, true), (l, false)]
  | metaProperty _ m p => [(m, true), (p, true)]
  | n => n.children.map fun x => (x, false)

/-- Functions of every kind: declarations, expressions and arrows. -/
def isFunction : Node → Bool
  | functionDeclaration .. | functionExpression .. | arrowFunctionExpression .. => true
  | _ => false

/-- Fuel for a walk down a tree read from a text: four units for each character up
to the end of the node, and a margin.  A level of the tree spends a character of
its own, except for the few kinds of node that wrap another with the same span
(a statement around its expression, an optional chain around its link, a
shorthand property around its name), and no wrapper wraps another wrapper of its
kind. -/
def walkFuel (n : Node) : Nat := 4 * n.span.stop.offset + 64

theorem sizeOf_lt_of_mem_toList {c : Node} {o : Option Node} (h : c ∈ o.toList) :
    sizeOf c < sizeOf o := by
  cases o <;> simp_all

theorem sizeOf_lt_of_mem_filterMap {c : Node} {es : List (Option Node)}
    (h : c ∈ es.filterMap id) : sizeOf c < sizeOf es := by
  obtain ⟨o, ho, rfl⟩ := List.mem_filterMap.1 h
  have := List.sizeOf_lt_of_mem ho
  simp at this
  omega

/-- A child is smaller than its parent, so a walk that descends through children
ends. -/
theorem sizeOf_lt_of_mem_children {c n : Node} (h : c ∈ n.children) : sizeOf c < sizeOf n := by
  cases n
  all_goals simp only [children, List.mem_append, List.mem_cons, List.not_mem_nil, or_false] at h
  -- each child is a field, an element of a list field, or the value of an optional field
  all_goals
    repeat' (apply Or.elim h <;> intro h)
  all_goals first
    | (subst h; simp <;> omega)
    | (have hs := List.sizeOf_lt_of_mem h; simp <;> omega)
    | (have hs := sizeOf_lt_of_mem_toList h; simp <;> omega)
    | (have hs := sizeOf_lt_of_mem_filterMap h; simp <;> omega)

/-- The nodes of a tree in pre-order: each node before its children, children in
order. -/
def nodes (n : Node) : List Node :=
  n :: n.children.attach.flatMap fun ⟨c, _⟩ => c.nodes
termination_by sizeOf n
decreasing_by exact sizeOf_lt_of_mem_children ‹_›

end Node

theorem spelledChildren_map_fst (n : Node) : n.spelledChildren.map Prod.fst = n.children := by
  cases n <;> simp [Node.spelledChildren, Node.children, Function.comp_def]

theorem Node.mem_children_of_mem_spelledChildren {n c : Node} {spelled : Bool}
    (h : (c, spelled) ∈ n.spelledChildren) : c ∈ n.children := by
  rw [← spelledChildren_map_fst]
  exact List.mem_map.2 ⟨_, h, rfl⟩

end ScriptGate
