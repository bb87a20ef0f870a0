import ScriptGate.Purity.Table
import ScriptGate.Purity.Path
import ScriptGate.Scope.Builder

/-!
# The purity analysis

One walk over the tree in pre-order reports every breach of purity, each node
checked before its children.  The walk counts the functions around the node it
is at: an assignment to `module.exports` or `exports.x` outside every function
wires up the module and is no breach.

What mutates depends on scopes: an identifier is *local* when it resolves to a
binding outside the module scope, declared in the same function as the use.
Changing a local binding, or an object whose chain starts at one, is the
current call's own business.  An array method that mutates in place counts as
local only when its array is a local binding that is not a parameter, since a
parameter's array belongs to the caller.

A forbidden name counts only when it is free: a program that declares its own
`fetch` uses its own.  A member chain whose root is declared in the program is
not matched against the forbidden paths either, unless the root holds a
module: an imported name, or a variable whose value is a `require` call on the
free name `require`.  A chain that matches reports once, at its outermost
member; its inner links and its root stay quiet.

Allowed names and paths are let through; an allowed path also lets a call on
it pass.

Identifiers that spell a name rather than use a binding (a key that is not
computed, the property after a dot, the exported name of a specifier) are told
apart from the binding they spell, even where they share its place in the
text, as the key and the value of a shorthand property do.
-/

namespace ScriptGate

namespace Purity

/-- The names and paths an analysis lets through. -/
structure Allowance where
  /-- Forbidden global names that are allowed. -/
  names : List String := []
  /-- Patterns of member paths that are allowed. -/
  members : PatternSet := PatternSet.ofList []
deriving Inhabited

/-- The forbidden member paths, as patterns. -/
def forbiddenSet : PatternSet := PatternSet.ofList (forbiddenMembers.map (·.1))

/-- What the walk knows of the whole program. -/
structure Survey where
  /-- The scopes of the program. -/
  arena : Arena
  /-- What is let through. -/
  allowance : Allowance
  /-- The bindings whose value is a module loaded with `require`. -/
  loaded : List BindingKey

namespace Survey

/-- The reference an identifier in a place of use makes. -/
def referenceOf (s : Survey) : Node → Option Reference
  | .identifier sp _ => s.arena.referenceAt sp.start.offset
  | _ => none

/-- Whether a reference resolves to a parameter. -/
def toParameter (s : Survey) (r : Reference) : Bool :=
  match r.binding with
  | some key => (s.arena.binding? key).any (·.kind == .parameter)
  | none => false

/-- Whether a node is an identifier that resolves locally; a parameter counts only
when `parameters` is set. -/
def isLocal (s : Survey) (parameters : Bool) (n : Node) : Bool :=
  match s.referenceOf n with
  | some r => s.arena.isLocal r && (parameters || !s.toParameter r)
  | none => false

/-- Whether a binding holds a module: imported, or loaded with `require`. -/
def holdsModule (s : Survey) (key : BindingKey) : Bool :=
  (s.arena.binding? key).any (·.kind == .imported) || s.loaded.contains key

/-- Whether a member chain starts at a name the program declares, other than one that
holds a module. -/
def hasBoundRoot (s : Survey) (n : Node) : Bool :=
  match s.referenceOf n.root with
  | some r =>
    match r.binding with
    | some key => !s.holdsModule key
    | none => false
  | none => false

end Survey

/-- Whether an assignment target wires up the exports of a module: `exports.x`,
`module.exports` or `module.exports.x`. -/
def isExportSlot (target : Node) : Except PathFault Bool :=
  match target with
  | .memberExpression _ obj .. => do
    if (match obj with
      | .identifier _ name => name == exportObject
      | _ => false) then return true
    if (← target.memberPath?) == some exportSlot then return true
    match obj with
    | .memberExpression .. => return (← obj.memberPath?) == some exportSlot
    | _ => return false
  | _ => return false

namespace Survey

/-- A write to a property of `target`, made by `node` with `depth` functions around it:
a breach unless it wires up exports outside every function, or the object is local. -/
def propertyWrite (s : Survey) (depth : Nat) (node target : Node) (deletes : Bool) :
    Except PathFault (List Violation) := do
  if depth == 0 then
    if ← isExportSlot target then return []
  return if s.isLocal true target.root then []
  else if deletes then
    [⟨.mutation, "property deletion",
      "Deleting a property of a non-local object mutates shared state; " ++
        "use rest destructuring or the spread operator to build a new object", some node.span⟩]
  else
    [⟨.mutation, "property assignment",
      "Assigning to a property of a non-local object mutates shared state; " ++
        "use the spread operator to create a new object instead", some node.span⟩]

/-- A new value given to an identifier, by assignment or, when `update` is set, by
`++` or `--`: a breach unless the identifier is local. -/
def rebinding (s : Survey) (update : Bool) (ident : Node) : List Violation :=
  match ident with
  | .identifier sp name =>
    let ref := s.referenceOf ident
    if ref.any s.arena.isLocal then []
    else
      let verb := if update then "Incrementing or decrementing" else "Reassigning"
      let (label, message) :=
        if ref.any s.toParameter then
          ("parameter reassignment: " ++ name,
            verb ++ " parameter '" ++ name ++ "' of an enclosing function mutates captured state")
        else
          ("variable reassignment: " ++ name,
            verb ++ " variable '" ++ name ++ "' outside its own function mutates shared state")
      let label := if update then "update expression (" ++ label ++ ")" else label
      [⟨.mutation, label, message, some sp⟩]
  | _ => []

/-- A free identifier that names a forbidden global, unless it is allowed. -/
def freeName (s : Survey) (n : Node) : List Violation :=
  match n, s.referenceOf n with
  | .identifier sp name, some r =>
    if r.binding.isSome || s.allowance.names.contains name then []
    else match forbiddenNames.lookup name with
      | some h => [⟨h.kind, name, h.describe name, some sp⟩]
      | none => []
  | _, _ => []

/-- A member chain with a forbidden path, unless its root is declared in the program or
its path is allowed; also whether it matched, which quiets the rest of the chain. -/
def forbiddenMember (s : Survey) (n : Node) : Except PathFault (List Violation × Bool) := do
  return match ← n.memberPath? with
  | none => ([], false)
  | some path =>
    if s.hasBoundRoot n then ([], false)
    else match forbiddenSet.match? path with
      | none => ([], false)
      | some matched =>
        if (s.allowance.members.match? path).isSome then ([], false)
        else match forbiddenMembers.lookup matched with
          | some h => ([⟨h.kind, matched, h.describe path, some n.span⟩], true)
          | none => ([], false)

/-- Whether an argument list starts with a fresh object or array. -/
def startsFresh (args : List Node) : Bool :=
  match args with
  | .objectExpression .. :: _ | .arrayExpression .. :: _ => true
  | _ => false

/-- A call on a member: of an object call that mutates its target (except
`Object.assign` onto a fresh object), or of an array method that mutates in place on
an array that is not a local non-parameter binding. -/
def mutatingCall (s : Survey) (n : Node) : Except PathFault (List Violation) :=
  match n with
  | .callExpression sp callee args _ =>
    match callee.unwrapped with
    | c@(.memberExpression _ obj ..) => do
      let byPath : Option (List Violation) :=
        match ← c.memberPath? with
        | some path =>
          if s.hasBoundRoot c then none
          else if pureObjectCalls.contains path || (s.allowance.members.match? path).isSome then
            some []
          else if mutatingObjectCalls.contains path then
            if path == "Object.assign" && startsFresh args then some []
            else some [⟨.mutation, path, "'" ++ path ++ "()' mutates its target object; " ++
              "build a new object with the spread operator instead", some sp⟩]
          else none
        | none => none
      match byPath with
      | some vs => return vs
      | none =>
        return match ← c.segment? with
        | none => []
        | some method =>
          if pureMethods.contains method then []
          else match mutatingArrayMethod? method with
            | none => []
            | some instead =>
              if s.isLocal false obj.root then []
              else [⟨.mutation, method, "'" ++ method ++ "()' mutates the array in place; use " ++
                instead ++ " instead", some sp⟩]
    | _ => return []
  | _ => return []

/-- The breaches a node makes by itself, with `depth` functions around it; `quiet` when
it is an inner link of a chain already reported, `spelled` when it spells a name.
Also whether it matched a forbidden path, which quiets the rest of its chain. -/
def inspect (s : Survey) (depth : Nat) (quiet spelled : Bool) (n : Node) :
    Except PathFault (List Violation × Bool) :=
  match n with
  | .identifier .. => return (if quiet || spelled then [] else s.freeName n, false)
  | .memberExpression .. => if quiet then return ([], false) else s.forbiddenMember n
  | .callExpression .. => return (← s.mutatingCall n, false)
  | .assignmentExpression _ _ l _ =>
    match l with
    | .memberExpression .. => return (← s.propertyWrite depth n l false, false)
    | _ => return ((ScopeBuilder.patternIdentifiers l).flatMap (s.rebinding false), false)
  | .updateExpression sp _ a _ =>
    match a with
    | .identifier .. => return (s.rebinding true a, false)
    | .memberExpression .. =>
      return ([⟨.mutation, "update expression on property",
        "Incrementing or decrementing a property mutates the object; " ++
          "compute a new object instead", some sp⟩], false)
    | _ => return ([], false)
  | .unaryExpression _ op a =>
    match a with
    | .memberExpression .. =>
      if op == "delete" then return (← s.propertyWrite depth n a true, false)
      else return ([], false)
    | _ => return ([], false)
  | _ =>
    match forbiddenConstruct? n.typeName with
    | some message => return ([⟨.forbiddenConstruct, n.typeName, message, some n.span⟩], false)
    | none => return ([], false)

end Survey

/-- The children of a node in order, each marked twice: whether it continues the
node's member chain (the object of a member, the link under an optional chain), and
whether it spells a name rather than using one. -/
def marked (n : Node) : List (Node × Bool × Bool) :=
  let links := match n with
    | .memberExpression .. | .chainExpression .. => true
    | _ => false
  n.spelledChildren.zipIdx.map fun ((child, spelled), i) => (child, links && i == 0, spelled)

theorem mem_children_of_mem_marked {n c : Node} {link spelled : Bool}
    (h : (c, link, spelled) ∈ marked n) : c ∈ n.children := by
  rw [← spelledChildren_map_fst]
  obtain ⟨⟨⟨c', s'⟩, i⟩, hm, he⟩ := List.mem_map.1 h
  simp only [Prod.mk.injEq] at he
  obtain ⟨rfl, -, rfl⟩ := he
  exact List.mem_map.2 ⟨(c', s'), List.fst_mem_of_mem_zipIdx hm, rfl⟩

namespace Survey

/-- The breaches in a tree, in pre-order, with `depth` functions around its root. -/
def walk (s : Survey) (depth : Nat) (quiet spelled : Bool) (n : Node) :
    Except PathFault (List Violation) := do
  let (own, matched) ← s.inspect depth quiet spelled n
  let inner := if n.isFunction then depth + 1 else depth
  let found ← (marked n).attach.mapM fun ⟨(child, link, name), _⟩ =>
    s.walk inner ((quiet || matched) && link) name child
  return own ++ found.flatten
termination_by sizeOf n
decreasing_by exact Node.sizeOf_lt_of_mem_children (mem_children_of_mem_marked ‹_›)

end Survey

/-- The bindings of a program whose value is a call of the free name `require`. -/
def loadedModules (arena : Arena) (program : Node) : List BindingKey :=
  program.nodes.filterMap fun n =>
    match n with
    | .variableDeclarator _ (.identifier isp _) (some (.callExpression _ callee _ _)) =>
      match callee with
      | .identifier csp name =>
        if name != moduleLoader then none
        else match arena.referenceAt csp.start.offset with
          | some r => if r.binding.isNone then arena.declaredAt isp.start.offset else none
          | none => none
      | _ => none
    | _ => none

end Purity

/-- The one breach reported when the analysis cannot finish: a side effect at
the start of the text that names the fault. -/
def Purity.failure (f : PathFault) : Violation :=
  ⟨.sideEffect, "analysis failure", "Purity analysis failed: " ++ f.message, none⟩

/-- What the walk over a program knows: its scopes, the allowance, and the bindings
that hold loaded modules. -/
def Purity.survey (allowance : Purity.Allowance) (program : Node) : Purity.Survey :=
  let arena := analyzeScopes program
  { arena, allowance, loaded := Purity.loadedModules arena program }

/-- The breaches of purity in a program, in pre-order; a member chain that cannot
be spelled stops the analysis, which then reports that alone. -/
def analyzePurity (allowance : Purity.Allowance) (program : Node) : List Violation :=
  match (Purity.survey allowance program).walk 0 false false program with
  | .ok vs => vs
  | .error f => [Purity.failure f]

end ScriptGate
