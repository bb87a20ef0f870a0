import ScriptGate.Scope.Builder
import ScriptGate.Syntax.Document

/-!
# Scopes as data

`Arena.toValue` writes the scopes of a program as a data value: the scopes by
index with their bindings in declaration order, the references grouped by scope
in the order they were made, and the names of the free references.
-/

namespace ScriptGate

namespace Arena

/-- A binding as data, with how many of its references read and write it. -/
def bindingValue (a : Arena) (b : Binding) : Value :=
  let refs := a.referencesOf (b.scope, b.name)
  .obj [("name", .str b.name), ("kind", .str b.kind.name), ("scope", .int b.scope),
    ("function_scope", .int b.functionScope),
    ("identifiers", .list (b.identifiers.map Span.toValue)),
    ("initialized", .bool b.initialized), ("exported", .bool b.exported),
    ("reads", .int (refs.filter (·.isRead)).length),
    ("writes", .int (refs.filter (·.isWrite)).length)]

/-- A scope as data. -/
def scopeValue (a : Arena) (s : Scope) : Value :=
  .obj [("index", .int s.index), ("kind", .str s.kind.name),
    ("parent", match s.parent with
      | some p => .int p
      | none => .null),
    ("function_scope", .int s.functionScope), ("node", .str s.node.typeName),
    ("node_loc", s.node.span.toValue), ("children", .list (s.children.map fun (c : Nat) => .int c)),
    ("bindings", .list (s.bindings.map a.bindingValue))]

/-- A reference as data. -/
def referenceValue (a : Arena) (r : Reference) : Value :=
  .obj [("name", .str r.name), ("loc", r.span.toValue), ("scope", .int r.scope),
    ("function_scope", .int r.functionScope),
    ("binding", match r.binding with
      | some (i, name) => .list [.int i, .str name]
      | none => .null),
    ("read", .bool r.isRead), ("write", .bool r.isWrite), ("local", .bool (a.isLocal r))]

/-- The scopes of a program as data. -/
def toValue (a : Arena) : Value :=
  let refs := a.references.toList.mergeSort fun x y => x.scope ≤ y.scope
  .obj [("parsed", .bool true), ("scopes", .list (a.scopes.toList.map a.scopeValue)),
    ("references", .list (refs.map a.referenceValue)),
    ("through", .list (a.through.map fun r => .str r.name))]

end Arena

end ScriptGate
