import ScriptGate.Syntax.Tree
import ScriptGate.Data.Value

/-!
# The tree as data

`Node.toValue` writes a tree as a data value: every node an object whose
first fields are its `type` and its `loc` (`[line, column, end line, end
column]`), followed by its own fields in a fixed order.  An absent child is
null and a hole of an array is null.
-/

namespace ScriptGate

/-- The value of a literal. -/
def LiteralValue.toValue : LiteralValue → Value
  | .string s => .str s
  | .int i => .int i
  | .float x => .float x
  | .bool b => .bool b
  | .null => .null

/-- A span as `[line, column, end line, end column]`. -/
def Span.toValue (s : Span) : Value :=
  .list [.int s.start.line, .int s.start.column, .int s.stop.line, .int s.stop.column]

namespace Node

/-- A node's object: its type, its span and its fields. -/
def document (n : Node) (fields : List (String × Value)) : Value :=
  .obj ([("type", .str n.typeName), ("loc", n.span.toValue)] ++ fields)

mutual

/-- A tree as data. -/
def toValue : Node → Value
  | n@(program _ body isModule) =>
    n.document [("body", .list (values body)),
      ("source_type", .str (if isModule then "module" else "script"))]
  | n@(expressionStatement _ e) => n.document [("expression", toValue e), ("directive", .null)]
  | n@(blockStatement _ body) => n.document [("body", .list (values body))]
  | n@(emptyStatement _) => n.document []
  | n@(debuggerStatement _) => n.document []
  | n@(withStatement _ o b) => n.document [("object", toValue o), ("body", toValue b)]
  | n@(returnStatement _ a) => n.document [("argument", optional a)]
  | n@(labeledStatement _ l b) => n.document [("label", toValue l), ("body", toValue b)]
  | n@(breakStatement _ l) => n.document [("label", optional l)]
  | n@(continueStatement _ l) => n.document [("label", optional l)]
  | n@(ifStatement _ t c a) =>
    n.document [("test", toValue t), ("consequent", toValue c), ("alternate", optional a)]
  | n@(switchStatement _ d cs) =>
    n.document [("discriminant", toValue d), ("cases", .list (values cs))]
  | n@(switchCase _ t cs) => n.document [("test", optional t), ("consequent", .list (values cs))]
  | n@(throwStatement _ a) => n.document [("argument", toValue a)]
  | n@(tryStatement _ b h f) =>
    n.document [("block", toValue b), ("handler", optional h), ("finalizer", optional f)]
  | n@(catchClause _ p b) => n.document [("param", optional p), ("body", toValue b)]
  | n@(whileStatement _ t b) => n.document [("test", toValue t), ("body", toValue b)]
  | n@(doWhileStatement _ b t) => n.document [("body", toValue b), ("test", toValue t)]
  | n@(forStatement _ i t u b) =>
    n.document [("init", optional i), ("test", optional t), ("update", optional u),
      ("body", toValue b)]
  | n@(forInStatement _ l r b) =>
    n.document [("left", toValue l), ("right", toValue r), ("body", toValue b)]
  | n@(forOfStatement _ l r b) =>
    n.document [("left", toValue l), ("right", toValue r), ("body", toValue b)]
  | n@(functionDeclaration _ i ps b g a) =>
    n.document [("id", optional i), ("params", .list (values ps)), ("body", toValue b),
      ("generator", .bool g), ("is_async", .bool a)]
  | n@(variableDeclaration _ ds k) =>
    n.document [("declarations", .list (values ds)), ("kind", .str k.keyword)]
  | n@(variableDeclarator _ i v) => n.document [("id", toValue i), ("init", optional v)]
  | n@(classDeclaration _ i s b) =>
    n.document [("id", optional i), ("super_class", optional s), ("body", toValue b)]
  | n@(classBody _ body) => n.document [("body", .list (values body))]
  | n@(methodDefinition _ k c v kind st) =>
    n.document [("key", toValue k), ("computed", .bool c), ("value", toValue v),
      ("kind", .str kind), ("is_static", .bool st)]
  | n@(propertyDefinition _ k c v st) =>
    n.document [("key", toValue k), ("computed", .bool c), ("value", optional v),
      ("is_static", .bool st)]
  | n@(staticBlock _ body) => n.document [("body", .list (values body))]
  | n@(importDeclaration _ ss src) =>
    n.document [("specifiers", .list (values ss)), ("source", toValue src)]
  | n@(importSpecifier _ i l) => n.document [("imported", toValue i), ("local", toValue l)]
  | n@(importDefaultSpecifier _ l) => n.document [("local", toValue l)]
  | n@(importNamespaceSpecifier _ l) => n.document [("local", toValue l)]
  | n@(exportNamedDeclaration _ d ss src) =>
    n.document [("declaration", optional d), ("specifiers", .list (values ss)),
      ("source", optional src)]
  | n@(exportSpecifier _ l e) => n.document [("local", toValue l), ("exported", toValue e)]
  | n@(exportDefaultDeclaration _ d) => n.document [("declaration", toValue d)]
  | n@(exportAllDeclaration _ src e) =>
    n.document [("source", toValue src), ("exported", optional e)]
  | n@(identifier _ name) => n.document [("name", .str name)]
  | n@(privateIdentifier _ name) => n.document [("name", .str name)]
  | n@(literal _ v raw re big) =>
    n.document [("value", v.toValue), ("raw", .str raw),
      ("regex_pattern", (re.map fun (p, _) => Value.str p).getD .null),
      ("regex_flags", (re.map fun (_, f) => Value.str f).getD .null),
      ("bigint", (big.map Value.str).getD .null)]
  | n@(thisExpression _) => n.document []
  | n@(superExpression _) => n.document []
  | n@(arrayExpression _ es) => n.document [("elements", .list (holes es))]
  | n@(objectExpression _ ps) => n.document [("properties", .list (values ps))]
  | n@(property _ k v kind c m sh) =>
    n.document [("key", toValue k), ("value", toValue v), ("kind", .str kind),
      ("computed", .bool c), ("method", .bool m), ("shorthand", .bool sh)]
  | n@(functionExpression _ i ps b g a) =>
    n.document [("id", optional i), ("params", .list (values ps)), ("body", toValue b),
      ("generator", .bool g), ("is_async", .bool a)]
  | n@(arrowFunctionExpression _ ps b e a) =>
    n.document [("params", .list (values ps)), ("body", toValue b), ("expression", .bool e),
      ("is_async", .bool a)]
  | n@(classExpression _ i s b) =>
    n.document [("id", optional i), ("super_class", optional s), ("body", toValue b)]
  | n@(templateLiteral _ qs es) =>
    n.document [("quasis", .list (values qs)), ("expressions", .list (values es))]
  | n@(templateElement _ raw cooked tail) =>
    n.document [("raw", .str raw), ("cooked", .str cooked), ("tail", .bool tail)]
  | n@(taggedTemplateExpression _ t q) => n.document [("tag", toValue t), ("quasi", toValue q)]
  | n@(unaryExpression _ op a) =>
    n.document [("operator", .str op), ("argument", toValue a), ("prefix", .bool true)]
  | n@(updateExpression _ op a p) =>
    n.document [("operator", .str op), ("argument", toValue a), ("prefix", .bool p)]
  | n@(binaryExpression _ op l r) =>
    n.document [("operator", .str op), ("left", toValue l), ("right", toValue r)]
  | n@(logicalExpression _ op l r) =>
    n.document [("operator", .str op), ("left", toValue l), ("right", toValue r)]
  | n@(assignmentExpression _ op l r) =>
    n.document [("operator", .str op), ("left", toValue l), ("right", toValue r)]
  | n@(conditionalExpression _ t c a) =>
    n.document [("test", toValue t), ("consequent", toValue c), ("alternate", toValue a)]
  | n@(callExpression _ c args o) =>
    n.document [("callee", toValue c), ("arguments", .list (values args)), ("optional", .bool o)]
  | n@(newExpression _ c args) =>
    n.document [("callee", toValue c), ("arguments", .list (values args))]
  | n@(memberExpression _ o p c opt) =>
    n.document [("object", toValue o), ("property", toValue p), ("computed", .bool c),
      ("optional", .bool opt)]
  | n@(chainExpression _ e) => n.document [("expression", toValue e)]
  | n@(sequenceExpression _ es) => n.document [("expressions", .list (values es))]
  | n@(yieldExpression _ a d) => n.document [("argument", optional a), ("delegate", .bool d)]
  | n@(awaitExpression _ a) => n.document [("argument", toValue a)]
  | n@(metaProperty _ m p) => n.document [("meta", toValue m), ("property", toValue p)]
  | n@(importExpression _) => n.document []
  | n@(spreadElement _ a) => n.document [("argument", toValue a)]
  | n@(objectPattern _ ps) => n.document [("properties", .list (values ps))]
  | n@(arrayPattern _ es) => n.document [("elements", .list (holes es))]
  | n@(restElement _ a) => n.document [("argument", toValue a)]
  | n@(assignmentPattern _ l r) => n.document [("left", toValue l), ("right", toValue r)]

/-- Trees as data, in order. -/
def values : List Node → List Value
  | [] => []
  | n :: ns => toValue n :: values ns

/-- An optional tree as data, null when absent. -/
def optional : Option Node → Value
  | none => .null
  | some n => toValue n

/-- The elements of an array as data, null for each hole. -/
def holes : List (Option Node) → List Value
  | [] => []
  | none :: rest => .null :: holes rest
  | some n :: rest => toValue n :: holes rest

end

end Node

end ScriptGate
