import ScriptGate.Syntax.Tree

/-!
# Shapes the grammar builds

Several forms of the language read the same up to a late token: `(a, b)` is a
parenthesized sequence or the parameters of an arrow, `[a, b]` an array or a
pattern, `{a, b}` an object or a pattern.  The grammar reads such a form once,
as an `Operand`, and keeps beside the expression the other readings it allows:

* `target`, the form as the left side of `=`: a name, a member, or an array
  or object read as a pattern;
* `element`, the form as an element of a pattern or as a parameter, which
  also allows a default value (`a = 1`);
* `isExpr`, whether it is an expression at all: `{a = 1}` is only a pattern.

`elementsOf` places the holes of an array: a comma right after the opening
bracket or after another comma stands for a missing element.

A `Chain` is the run of links the grammar reads after an operand: member
accesses, calls and tagged templates, each built on the link before it.  Its
nodes are made the way the tree converter makes them, one link at a time.

* `Chain.isOptional` walks down through the links a link is built on and says
  whether one of them stands after `?.`.
* `Chain.toNode` is given whether the link continues the chain, that is, whether
  it is the object, callee or tag of a further link.  A member or a call that
  ends a chain holding `?.` is wrapped in a chain node (`Chain.close`).  A tagged
  template is built bare, whatever it holds.
-/

namespace ScriptGate

/-- An expression as read, with the other readings of its text. -/
structure Operand where
  /-- The expression. -/
  node : Node
  /-- The form as the left side of `=`. -/
  target : Option Node := none
  /-- The form as an element of a pattern or a parameter. -/
  element : Option Node := none
  /-- Whether the text is an expression. -/
  isExpr : Bool := true
  /-- Whether the text is wrapped in parentheses. -/
  parens : Bool := false
  /-- Where the text with its outermost parentheses starts and stops, when it has them:
  a node built around the operand covers the parentheses too. -/
  extent : Option (Nat × Nat) := none
deriving Inhabited

namespace Operand

/-- An expression with no other reading. -/
def plain (n : Node) : Operand := { node := n }

/-- An expression that is also a target and an element: a name or a member. -/
def assignable (n : Node) : Operand := { node := n, target := some n, element := some n }

/-- Where the operand's text starts, parentheses included. -/
def start (o : Operand) : Nat :=
  match o.extent with
  | some (a, _) => a
  | none => o.node.span.start.offset

/-- Where the operand's text stops, parentheses included. -/
def stop (o : Operand) : Nat :=
  match o.extent with
  | some (_, b) => b
  | none => o.node.span.stop.offset

end Operand

/-- An item between the brackets of an array. -/
inductive ArrayItem where
  /-- A comma. -/
  | comma
  /-- An element. -/
  | element (x : Node)
deriving Inhabited

/-- The elements of an array, a hole standing for each comma that follows the
opening bracket or another comma.  `expecting` says whether an element may
come before the next comma without leaving a hole. -/
def elementsFrom : Bool → List ArrayItem → List (Option Node)
  | _, [] => []
  | _, .element x :: rest => some x :: elementsFrom false rest
  | expecting, .comma :: rest =>
    if expecting then none :: elementsFrom true rest else elementsFrom true rest

/-- The elements of an array, with holes. -/
def elementsOf (items : List ArrayItem) : List (Option Node) := elementsFrom true items

/-- Member accesses, calls and tagged templates, each built on the one before, from an
operand that is no link: a name, a literal, a parenthesized expression. -/
inductive Chain where
  /-- The operand the links are built on. -/
  | base (operand : Node)
  /-- A member by name or, when `computed`, by index; after `?.` when `optional`. -/
  | member (span : Span) (object : Chain) (property : Node) (computed optional : Bool)
  /-- A call; after `?.` when `optional`. -/
  | call (span : Span) (callee : Chain) (arguments : List Node) (optional : Bool)
  /-- A template tagged by the chain so far. -/
  | tagged (span : Span) (tag : Chain) (quasi : Node)
deriving Inhabited

namespace Chain

/-- Whether the link, or one it is built on, stands after `?.`. -/
def isOptional : Chain → Bool
  | base _ => false
  | member _ o _ _ opt => opt || o.isOptional
  | call _ f _ opt => opt || f.isOptional
  | tagged _ f _ => f.isOptional

/-- A link's node as it leaves the link: wrapped in a chain node when the link holds `?.`
and does not continue into a further link. -/
def close (c : Chain) (continues : Bool) (link : Node) : Node :=
  if continues || !c.isOptional then link else .chainExpression link.span link

/-- The node of a chain, given whether it continues into a further link.  The links it is
built on continue, so only the outermost link can be wrapped. -/
def toNode : Chain → Bool → Node
  | base n, _ => n
  | c@(member sp o p computed opt), continues =>
    c.close continues (.memberExpression sp (o.toNode true) p computed opt)
  | c@(call sp f args opt), continues =>
    c.close continues (.callExpression sp (f.toNode true) args opt)
  | tagged sp f q, _ => .taggedTemplateExpression sp (f.toNode true) q

/-- Whether the node of the chain, ended, is a chain node: its outermost link is a member
or a call and it holds `?.`. -/
def closes : Chain → Bool
  | base _ | tagged .. => false
  | c@(member ..) | c@(call ..) => c.isOptional

end Chain

/-- Words that never name a binding. -/
def reservedWords : List String :=
  ["break", "case", "catch", "class", "const", "continue", "debugger", "default", "delete",
   "do", "else", "export", "extends", "false", "finally", "for", "function", "if", "import",
   "in", "instanceof", "new", "null", "return", "super", "switch", "this", "throw", "true",
   "try", "typeof", "var", "void", "while", "with"]

/-- Whether a word is reserved. -/
def isReserved (w : String) : Bool := reservedWords.contains w

/-- Words that read as names where the grammar allows a name or a keyword:
they stand as expressions, labels and shorthand properties. -/
def looseWords : List String := ["get", "set", "async", "static", "export", "let", "await"]

/-- The binding power of a binary operator, whether it groups to the right, and
whether it is logical.  `in` is left out where a `for` head is being read. -/
def binaryPower (op : String) (noIn : Bool) : Option (Nat × Bool) :=
  match op with
  | "??" => some (1, false)
  | "||" => some (2, false)
  | "&&" => some (3, false)
  | "|" => some (4, false)
  | "^" => some (5, false)
  | "&" => some (6, false)
  | "==" | "!=" | "===" | "!==" => some (7, false)
  | "<" | "<=" | ">" | ">=" | "instanceof" => some (8, false)
  | "in" => if noIn then none else some (8, false)
  | "<<" | ">>" | ">>>" => some (9, false)
  | "+" | "-" => some (10, false)
  | "*" | "/" | "%" => some (11, false)
  | "**" => some (12, true)
  | _ => none

/-- Whether a binary operator is logical. -/
def isLogical (op : String) : Bool := op = "&&" ∨ op = "||" ∨ op = "??"

/-- The compound assignment operators. -/
def compoundAssignments : List String :=
  ["+=", "-=", "*=", "/=", "%=", "**=", "<<=", ">>=", ">>>=", "&=", "|=", "^=", "&&=",
   "||=", "??="]

/-- All the values, if none is missing. -/
def collect {α : Type} : List (Option α) → Option (List α)
  | [] => some []
  | x :: xs => x.bind fun a => (collect xs).map (a :: ·)

theorem elementsOf_nil : elementsOf [] = [] := rfl

end ScriptGate
