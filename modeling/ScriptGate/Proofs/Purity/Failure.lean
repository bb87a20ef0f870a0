import ScriptGate.Proofs.Purity.Rebinding
import ScriptGate.Proofs.Purity.Allowance
import ScriptGate.Proofs.OptionalChain.Erase

/-!
# When the purity analysis stops

The analysis of a program is its walk's findings, or, when the walk fails, one
breach that names the failure (`analyzePurity_eq`).  The walk fails in one
place only: a link of a member chain whose computed index is an integer literal
with more decimal digits than a number may be printed with names no property
that can be spelled (`Node.hasLongIndex`, `Node.segment?_eq_error_iff`).

Spelling a path reads the links of a chain from the outside in, and stops at a
link that names no property, so a long index fails a spelling only where the
spelling reaches it.  Still every such link fails the walk
(`walk_eq_error_iff`).  A link is passed over unspelled only inside a chain
already reported, and that report spelled the whole chain, the link included
(`QuietSpelled`, the invariant the walk carries down its chains).  Conversely
every failure comes from such a link below the node where it arises.

So the breach that names a failure stands in an analysis exactly when the
program holds a long index, and then it stands alone; otherwise every breach
stands at the span of a node of the program, an identifier that a pattern gives a
new value included (`exists_node_of_mem_walk`, `analysisFailure_iff_longIndex`).  The source `o[0xf…f];`, whose index has
3600 hex digits, reads, and its analysis is that failure
(`longIndexMember_analysisFailure`).
-/

namespace ScriptGate

namespace Node

theorem self_mem_nodes (n : Node) : n ∈ n.nodes := by
  rw [nodes_eq]
  exact List.mem_cons_self

theorem mem_nodes_of_mem_nodesAt {n A : Node} {depth dA : Nat} (h : (A, dA) ∈ n.nodesAt depth) :
    A ∈ n.nodes := by
  rcases mem_nodesAt.1 h with ⟨rfl, -⟩ | ⟨c, hc, hA⟩
  · exact self_mem_nodes A
  · exact mem_nodes_of_mem_children hc (mem_nodes_of_mem_nodesAt hA)
termination_by sizeOf n
decreasing_by exact sizeOf_lt_of_mem_children hc

mutual

/-- The leaves of a pattern are nodes of it. -/
theorem mem_nodes_of_mem_patternLeaves {m : Node} (p : Node) (h : m ∈ p.patternLeaves) :
    m ∈ p.nodes := by
  cases p
  case objectPattern sp props =>
    obtain ⟨c, hc, hm⟩ := mem_nodes_of_mem_propertyLeaves props (by simpa [patternLeaves] using h)
    exact mem_nodes_of_mem_children (by simpa [children] using hc) hm
  case arrayPattern sp es =>
    obtain ⟨c, hc, hm⟩ := mem_nodes_of_mem_elementLeaves es (by simpa [patternLeaves] using h)
    exact mem_nodes_of_mem_children (by simpa [children] using hc) hm
  case restElement sp a =>
    exact mem_nodes_of_mem_children (by simp [children])
      (mem_nodes_of_mem_patternLeaves a (by simpa [patternLeaves] using h))
  case assignmentPattern sp l r =>
    exact mem_nodes_of_mem_children (by simp [children])
      (mem_nodes_of_mem_patternLeaves l (by simpa [patternLeaves] using h))
  -- every other node is its own leaf
  all_goals
    simp only [patternLeaves, List.mem_singleton] at h
    subst h
    exact self_mem_nodes _
termination_by structural p

theorem mem_nodes_of_mem_propertyLeaves {m : Node} (props : List Node)
    (h : m ∈ propertyLeaves props) : ∃ c ∈ props, m ∈ c.nodes := by
  cases props with
  | nil => simp [propertyLeaves] at h
  | cons p props =>
    -- a property enters through its value, any other entry as a pattern of its own
    cases p
    case property sp k v kind computed method shorthand =>
      simp only [propertyLeaves, List.mem_append] at h
      rcases h with h | h
      · exact ⟨_, List.mem_cons_self,
          mem_nodes_of_mem_children (by simp [children]) (mem_nodes_of_mem_patternLeaves v h)⟩
      · obtain ⟨c, hc, hm⟩ := mem_nodes_of_mem_propertyLeaves props h
        exact ⟨c, List.mem_cons_of_mem _ hc, hm⟩
    all_goals
      simp only [propertyLeaves, List.mem_append] at h
      rcases h with h | h
      · exact ⟨_, List.mem_cons_self, mem_nodes_of_mem_patternLeaves _ h⟩
      · obtain ⟨c, hc, hm⟩ := mem_nodes_of_mem_propertyLeaves props h
        exact ⟨c, List.mem_cons_of_mem _ hc, hm⟩
termination_by structural props

theorem mem_nodes_of_mem_elementLeaves {m : Node} (es : List (Option Node))
    (h : m ∈ elementLeaves es) : ∃ c ∈ es.filterMap id, m ∈ c.nodes := by
  cases es with
  | nil => simp [elementLeaves] at h
  | cons e es =>
    cases e with
    | some e =>
      simp only [elementLeaves, List.mem_append] at h
      rcases h with h | h
      · exact ⟨e, by simp, mem_nodes_of_mem_patternLeaves e h⟩
      · obtain ⟨c, hc, hm⟩ := mem_nodes_of_mem_elementLeaves es h
        exact ⟨c, by simpa using Or.inr hc, hm⟩
    | none =>
      obtain ⟨c, hc, hm⟩ := mem_nodes_of_mem_elementLeaves es (by simpa [elementLeaves] using h)
      exact ⟨c, by simpa using hc, hm⟩
termination_by structural es

end

/-- The identifiers a pattern introduces are nodes of it. -/
theorem mem_nodes_of_mem_patternIdentifiers {p m : Node}
    (h : m ∈ ScopeBuilder.patternIdentifiers p) : m ∈ p.nodes := by
  rw [patternIdentifiers_eq_filter, List.mem_filter] at h
  exact mem_nodes_of_mem_patternLeaves p h.1

/-- A member whose computed index is an integer literal too long to print. -/
def hasLongIndex : Node → Bool
  | memberExpression _ _ (literal _ (.int v) _ none _) true _ => !Numeral.printable v
  | _ => false

theorem hasLongIndex_member {sp sp' : Span} {o : Node} {v : Int} {raw : String}
    {bigint : Option String} {optional : Bool} (hv : Numeral.printable v = false) :
    (memberExpression sp o (literal sp' (.int v) raw none bigint) true optional).hasLongIndex =
      true := by
  simp [hasLongIndex, hv]

/-- Reading the property of a link fails exactly at a long index. -/
theorem segment?_eq_error_iff {n : Node} {f : PathFault} :
    n.segment? = .error f ↔ n.hasLongIndex = true := by
  cases f
  cases n
  case memberExpression sp o p computed optional =>
    cases computed
    · simp only [segment?, hasLongIndex, Bool.not_false, if_true]
      split <;> simp
    · cases p
      case literal sp' v raw regex bigint =>
        cases regex with
        | some r => simp [segment?, hasLongIndex]
        | none =>
          cases v with
          | int v =>
            cases hv : Numeral.printable v <;> simp [segment?, hasLongIndex, hv]
          | float x => simp only [segment?, hasLongIndex]; split <;> simp
          | _ => simp [segment?, hasLongIndex]
      all_goals simp [segment?, hasLongIndex]
  all_goals simp [segment?, hasLongIndex]

/-- Spelling a chain fails only at a long index among its nodes. -/
theorem exists_longIndex_of_pathParts_eq_error :
    ∀ {n : Node} {f : PathFault}, n.pathParts = .error f → ∃ m ∈ n.nodes, m.hasLongIndex = true
  | chainExpression sp e, f, h => by
    rw [pathParts] at h
    obtain ⟨m, hm, hlong⟩ := exists_longIndex_of_pathParts_eq_error h
    exact ⟨m, mem_nodes_of_mem_children (by simp [children]) hm, hlong⟩
  | memberExpression sp o p computed optional, f, h => by
    rw [pathParts] at h
    cases hseg : (memberExpression sp o p computed optional).segment? with
    | error e =>
      exact ⟨_, self_mem_nodes _, segment?_eq_error_iff.1 hseg⟩
    | ok s =>
      rw [hseg] at h
      cases s with
      | none => cases h
      | some s =>
        -- the link reads; the failure lies further in, at the object
        cases ho : o.pathParts with
        | ok parts => rw [ho] at h; cases h
        | error e =>
          obtain ⟨m, hm, hlong⟩ := exists_longIndex_of_pathParts_eq_error ho
          exact ⟨m, mem_nodes_of_mem_children (by simp [children]) hm, hlong⟩
  | program .., _, h | expressionStatement .., _, h | blockStatement .., _, h
  | emptyStatement .., _, h | debuggerStatement .., _, h | withStatement .., _, h
  | returnStatement .., _, h | labeledStatement .., _, h | breakStatement .., _, h
  | continueStatement .., _, h | ifStatement .., _, h | switchStatement .., _, h
  | switchCase .., _, h | throwStatement .., _, h | tryStatement .., _, h
  | catchClause .., _, h | whileStatement .., _, h | doWhileStatement .., _, h
  | forStatement .., _, h | forInStatement .., _, h | forOfStatement .., _, h
  | functionDeclaration .., _, h | variableDeclaration .., _, h | variableDeclarator .., _, h
  | classDeclaration .., _, h | classBody .., _, h | methodDefinition .., _, h
  | propertyDefinition .., _, h | staticBlock .., _, h | importDeclaration .., _, h
  | importSpecifier .., _, h | importDefaultSpecifier .., _, h
  | importNamespaceSpecifier .., _, h | exportNamedDeclaration .., _, h
  | exportSpecifier .., _, h | exportDefaultDeclaration .., _, h
  | exportAllDeclaration .., _, h | identifier .., _, h | privateIdentifier .., _, h
  | literal .., _, h | thisExpression .., _, h | superExpression .., _, h
  | arrayExpression .., _, h | objectExpression .., _, h | property .., _, h
  | functionExpression .., _, h | arrowFunctionExpression .., _, h
  | classExpression .., _, h | templateLiteral .., _, h | templateElement .., _, h
  | taggedTemplateExpression .., _, h | unaryExpression .., _, h | updateExpression .., _, h
  | binaryExpression .., _, h | logicalExpression .., _, h | assignmentExpression .., _, h
  | conditionalExpression .., _, h | callExpression .., _, h | newExpression .., _, h
  | sequenceExpression .., _, h | yieldExpression .., _, h | awaitExpression .., _, h
  | metaProperty .., _, h | importExpression .., _, h | spreadElement .., _, h
  | objectPattern .., _, h | arrayPattern .., _, h | restElement .., _, h
  | assignmentPattern .., _, h => by simp [pathParts] at h

/-- A long index fails the spelling of its own link. -/
theorem pathParts_eq_error_of_hasLongIndex {n : Node} (h : n.hasLongIndex = true) :
    n.pathParts = .error .longInteger := by
  cases n
  case memberExpression sp o p computed optional =>
    have hseg : (memberExpression sp o p computed optional).segment? = .error .longInteger :=
      segment?_eq_error_iff.2 h
    rw [pathParts, hseg]
    rfl
  all_goals simp [hasLongIndex] at h

/-- A chain spelled whole has its object spelled whole. -/
theorem pathParts_object_of_member {sp : Span} {o p : Node} {computed optional : Bool}
    {parts : List String}
    (h : (memberExpression sp o p computed optional).pathParts = .ok (some parts)) :
    ∃ parts', o.pathParts = .ok (some parts') := by
  rw [pathParts] at h
  obtain ⟨s, hs, h⟩ := except_bind_eq_ok.1 h
  cases s with
  | none => cases h
  | some s =>
    obtain ⟨r, hr, h⟩ := except_bind_eq_ok.1 h
    cases r with
    | none => cases h
    | some parts' => exact ⟨parts', hr⟩

/-- The path of a chain fails only at a long index among its nodes. -/
theorem exists_longIndex_of_memberPath?_eq_error {n : Node} {f : PathFault}
    (h : n.memberPath? = .error f) : ∃ m ∈ n.nodes, m.hasLongIndex = true := by
  rw [memberPath?] at h
  cases hp : n.pathParts with
  | error e => exact exists_longIndex_of_pathParts_eq_error hp
  | ok r =>
    rw [hp] at h
    simp only [bind, Except.bind] at h
    split at h <;> cases h

/-- A chain with a path was spelled whole. -/
theorem pathParts_of_memberPath?_eq_some {n : Node} {path : String}
    (h : n.memberPath? = .ok (some path)) : ∃ parts, n.pathParts = .ok (some parts) := by
  rw [memberPath?] at h
  obtain ⟨r, hr, h⟩ := except_bind_eq_ok.1 h
  cases r with
  | none => simp [pure, Except.pure] at h
  | some parts => exact ⟨parts, hr⟩

theorem unwrapChain_mem_nodes (n : Node) : n.unwrapChain ∈ n.nodes := by
  cases n
  case chainExpression sp e =>
    rw [unwrapChain]
    exact mem_nodes_of_mem_children (by simp [children]) (unwrapChain_mem_nodes e)
  all_goals exact self_mem_nodes _

end Node

/-! ## Where the walk can fail -/

theorem except_bind_eq_error {ε α β : Type} {x : Except ε α} {f : α → Except ε β} {e : ε} :
    x >>= f = .error e ↔ x = .error e ∨ ∃ a, x = .ok a ∧ f a = .error e := by
  cases x <;> simp [bind, Except.bind]

/-- A failed `mapM` failed at one of its inputs. -/
theorem exists_of_mapM_eq_error {ε α β : Type} {f : α → Except ε β} {e : ε} :
    ∀ {xs : List α}, xs.mapM f = .error e → ∃ x ∈ xs, f x = .error e
  | [], h => by simp [pure, Except.pure] at h
  | x :: xs, h => by
    rw [List.mapM_cons] at h
    rcases except_bind_eq_error.1 h with hx | ⟨y, -, h⟩
    · exact ⟨x, List.mem_cons_self, hx⟩
    · rcases except_bind_eq_error.1 h with hxs | ⟨ys, -, h⟩
      · obtain ⟨z, hz, hfz⟩ := exists_of_mapM_eq_error hxs
        exact ⟨z, List.mem_cons_of_mem _ hz, hfz⟩
      · cases h

namespace Purity

open Node

/-- Telling an export slot fails only at a long index in the target. -/
theorem exists_longIndex_of_isExportSlot_eq_error {t : Node} {f : PathFault}
    (h : isExportSlot t = .error f) : ∃ m ∈ t.nodes, m.hasLongIndex = true := by
  cases t
  case memberExpression sp obj p computed optional =>
    simp only [isExportSlot] at h
    split_ifs at h with hname
    · cases h
    rcases except_bind_eq_error.1 h with hp | ⟨r, -, h⟩
    · exact exists_longIndex_of_memberPath?_eq_error hp
    · -- past its own path, only the path of the object can fail
      split_ifs at h with hslot
      · cases h
      cases obj
      case memberExpression =>
        rcases except_bind_eq_error.1 h with hp | ⟨r', -, h⟩
        · obtain ⟨m, hm, hlong⟩ := exists_longIndex_of_memberPath?_eq_error hp
          exact ⟨m, mem_nodes_of_mem_children (by simp [children]) hm, hlong⟩
        · cases h
      all_goals cases h
  all_goals cases h

namespace Survey

variable {s : Survey}

/-- A property write fails only at a long index in its target. -/
theorem exists_longIndex_of_propertyWrite_eq_error {depth : Nat} {node t : Node}
    {deletes : Bool} {f : PathFault} (h : s.propertyWrite depth node t deletes = .error f) :
    ∃ m ∈ t.nodes, m.hasLongIndex = true := by
  simp only [propertyWrite] at h
  split at h
  · rcases except_bind_eq_error.1 h with hx | ⟨b, -, h⟩
    · exact exists_longIndex_of_isExportSlot_eq_error hx
    · split at h <;> cases h
  · cases h

/-- Checking a chain against the forbidden paths fails only at a long index in it. -/
theorem exists_longIndex_of_forbiddenMember_eq_error {n : Node} {f : PathFault}
    (h : s.forbiddenMember n = .error f) : ∃ m ∈ n.nodes, m.hasLongIndex = true := by
  simp only [forbiddenMember] at h
  rcases except_bind_eq_error.1 h with hp | ⟨r, -, h⟩
  · exact exists_longIndex_of_memberPath?_eq_error hp
  · cases h

/-- A chain that matched a forbidden path has a path. -/
theorem memberPath?_of_forbiddenMember_matched {n : Node} {own : List Violation}
    (h : s.forbiddenMember n = .ok (own, true)) : ∃ path, n.memberPath? = .ok (some path) := by
  simp only [forbiddenMember] at h
  obtain ⟨r, hr, h⟩ := except_bind_eq_ok.1 h
  cases r with
  | none => cases h
  | some path => exact ⟨path, hr⟩

/-- A call on a member fails only at a long index in its callee. -/
theorem exists_longIndex_of_mutatingCall_eq_error {n : Node} {f : PathFault}
    (h : s.mutatingCall n = .error f) : ∃ m ∈ n.nodes, m.hasLongIndex = true := by
  cases n
  case callExpression sp callee args optional =>
    simp only [mutatingCall] at h
    split at h
    case h_1 sp' obj p computed opt hc =>
      -- the callee, out of its chain wrappers, is the member whose path or link fails
      have hcn : memberExpression sp' obj p computed opt ∈
          (callExpression sp callee args optional).nodes :=
        mem_nodes_of_mem_children (by simp [children])
          (hc ▸ (show callee.unwrapped ∈ callee.nodes from unwrapChain_mem_nodes callee))
      rcases except_bind_eq_error.1 h with hp | ⟨r, -, h⟩
      · obtain ⟨m, hm, hlong⟩ := exists_longIndex_of_memberPath?_eq_error hp
        exact ⟨m, mem_nodes_trans hcn hm, hlong⟩
      · split at h
        · cases h
        · rcases except_bind_eq_error.1 h with hseg | ⟨r', -, h⟩
          · exact ⟨_, hcn, segment?_eq_error_iff.1 hseg⟩
          · cases h
    case h_2 => cases h
  all_goals cases h

/-- A node's own inspection fails only at a long index among its nodes. -/
theorem exists_longIndex_of_inspect_eq_error {depth : Nat} {quiet spelled : Bool} {n : Node}
    {f : PathFault} (h : s.inspect depth quiet spelled n = .error f) :
    ∃ m ∈ n.nodes, m.hasLongIndex = true := by
  cases n
  case memberExpression sp o p computed optional =>
    simp only [inspect] at h
    split at h
    · cases h
    · exact exists_longIndex_of_forbiddenMember_eq_error h
  case callExpression sp callee args optional =>
    simp only [inspect] at h
    rcases except_bind_eq_error.1 h with hc | ⟨r, -, h⟩
    · exact exists_longIndex_of_mutatingCall_eq_error hc
    · cases h
  case assignmentExpression sp op l r =>
    simp only [inspect] at h
    split at h
    · rcases except_bind_eq_error.1 h with hw | ⟨r, -, h⟩
      · obtain ⟨m, hm, hlong⟩ := exists_longIndex_of_propertyWrite_eq_error hw
        exact ⟨m, mem_nodes_of_mem_children (by simp [children]) hm, hlong⟩
      · cases h
    · cases h
  case unaryExpression sp op a =>
    simp only [inspect] at h
    split at h
    · split at h
      · rcases except_bind_eq_error.1 h with hw | ⟨r, -, h⟩
        · obtain ⟨m, hm, hlong⟩ := exists_longIndex_of_propertyWrite_eq_error hw
          exact ⟨m, mem_nodes_of_mem_children (by simp [children]) hm, hlong⟩
        · cases h
      · cases h
    · cases h
  case updateExpression sp op a pre =>
    simp only [inspect] at h
    split at h <;> cases h
  case identifier sp name => cases h
  -- every other node reports at most a forbidden construct, which never fails
  all_goals
    simp only [inspect] at h
    split at h <;> cases h

/-- A walk fails only at a long index among the nodes of its tree. -/
theorem exists_longIndex_of_walk_eq_error {depth : Nat} {quiet spelled : Bool} {n : Node}
    {f : PathFault} (h : s.walk depth quiet spelled n = .error f) :
    ∃ m ∈ n.nodes, m.hasLongIndex = true := by
  rw [walk] at h
  rcases except_bind_eq_error.1 h with hi | ⟨r, -, h⟩
  · exact exists_longIndex_of_inspect_eq_error hi
  · rcases except_bind_eq_error.1 h with hm | ⟨found, -, h⟩
    · obtain ⟨⟨⟨c, link, name⟩, hc⟩, -, hwalk⟩ := exists_of_mapM_eq_error hm
      obtain ⟨m, hm, hlong⟩ := exists_longIndex_of_walk_eq_error hwalk
      exact ⟨m, mem_nodes_of_mem_children (mem_children_of_mem_marked hc) hm, hlong⟩
    · cases h
termination_by sizeOf n
decreasing_by exact Node.sizeOf_lt_of_mem_children (mem_children_of_mem_marked hc)

end Survey

/-! ## Links the walk passes over -/

/-- The walk passes over a node quietly only when the chain through it was spelled whole, by
the report of a chain around it. -/
def QuietSpelled (quiet : Bool) (n : Node) : Prop :=
  quiet = true → ∃ parts, n.pathParts = .ok (some parts)

/-- The walk carries `QuietSpelled` down to each child: a child passed over quietly continues
a chain that was spelled whole, around it or at its parent. -/
theorem QuietSpelled.child {s : Survey} {depth : Nat} {quiet spelled link name matched : Bool}
    {n c : Node} {own : List Violation} (hq : QuietSpelled quiet n)
    (hi : s.inspect depth quiet spelled n = .ok (own, matched)) (hc : (c, link, name) ∈ marked n) :
    QuietSpelled ((quiet || matched) && link) c := by
  intro hquiet
  have hlink : link = true := by simp_all
  subst hlink
  rcases link_of_mem_marked hc with ⟨sp, p, computed, optional, rfl⟩ | ⟨sp, rfl⟩
  · -- a member's chain was spelled whole, around it or by its own match
    have hwhole : ∃ parts,
        (Node.memberExpression sp c p computed optional).pathParts = .ok (some parts) := by
      cases quiet
      · have hmatched : matched = true := by simpa using hquiet
        subst hmatched
        simp only [Survey.inspect, Bool.false_eq_true, ↓reduceIte] at hi
        obtain ⟨path, hpath⟩ := Survey.memberPath?_of_forbiddenMember_matched hi
        exact pathParts_of_memberPath?_eq_some hpath
      · exact hq rfl
    obtain ⟨parts, hparts⟩ := hwhole
    exact pathParts_object_of_member hparts
  · -- a chain wrapper reports nothing, and its link is spelled as the wrapper is
    have hmatched : matched = false := by
      simp only [Survey.inspect, Node.typeName, forbiddenConstruct?] at hi
      cases hi
      rfl
    subst hmatched
    obtain ⟨parts, hparts⟩ := hq (by simpa using hquiet)
    exact ⟨parts, by rwa [pathParts] at hparts⟩

namespace Survey

variable {s : Survey}

/-- A walk that succeeds met no long index in its tree, when it started with its chain
spelled or unquiet. -/
theorem hasLongIndex_eq_false_of_walk_eq_ok {depth : Nat} {quiet spelled : Bool} {n : Node}
    {vs : List Violation} (h : s.walk depth quiet spelled n = .ok vs) (hq : QuietSpelled quiet n) :
    ∀ m ∈ n.nodes, m.hasLongIndex = false := by
  obtain ⟨own, matched, found, hinspect, hchildren, -, -⟩ := walk_eq_ok h
  intro m hm
  rw [nodes_eq] at hm
  rcases List.mem_cons.1 hm with rfl | hm
  · -- the node itself was spelled, whole around it or by its own inspection
    rw [← Bool.not_eq_true]
    intro hlong
    cases quiet
    · have hseg : m.segment? = .error .longInteger := segment?_eq_error_iff.2 hlong
      cases m
      case memberExpression sp o p computed optional =>
        rw [inspect_member_eq_error (memberPath?_eq_error hseg)] at hinspect
        cases hinspect
      all_goals simp [hasLongIndex] at hlong
    · obtain ⟨parts, hparts⟩ := hq rfl
      rw [pathParts_eq_error_of_hasLongIndex hlong] at hparts
      cases hparts
  · obtain ⟨c, hc, hmc⟩ := List.mem_flatMap.1 hm
    obtain ⟨link, name, hmark⟩ := exists_mem_marked hc
    obtain ⟨w, -, hw⟩ := hchildren c link name hmark
    exact hasLongIndex_eq_false_of_walk_eq_ok hw (hq.child hinspect hmark) m hmc
termination_by sizeOf n
decreasing_by exact Node.sizeOf_lt_of_mem_children hc

/-- The walk over a tree, started unquiet, fails exactly when the tree holds a long index. -/
theorem walk_eq_error_iff (depth : Nat) (spelled : Bool) (n : Node) :
    (∃ f, s.walk depth false spelled n = .error f) ↔ ∃ m ∈ n.nodes, m.hasLongIndex = true := by
  constructor
  · rintro ⟨f, h⟩
    exact exists_longIndex_of_walk_eq_error h
  · rintro ⟨m, hm, hlong⟩
    cases h : s.walk depth false spelled n with
    | error f => exact ⟨f, rfl⟩
    | ok vs =>
      have hfalse := hasLongIndex_eq_false_of_walk_eq_ok h (fun hq => by cases hq) m hm
      rw [hlong] at hfalse
      cases hfalse

/-! ## Reports stand at nodes -/

theorem span_of_mem_freeName {n : Node} {v : Violation} (h : v ∈ s.freeName n) :
    v.span = some n.span := by
  unfold freeName at h
  split at h
  · split_ifs at h
    · simp at h
    · split at h
      · obtain rfl := List.mem_singleton.1 h
        rfl
      · simp at h
  · simp at h

theorem span_of_forbiddenMember {n : Node} {own : List Violation} {matched : Bool}
    (h : s.forbiddenMember n = .ok (own, matched)) : ∀ v ∈ own, v.span = some n.span := by
  intro v hv
  unfold forbiddenMember at h
  obtain ⟨path, -, h⟩ := except_bind_eq_ok.1 h
  have h := except_pure_eq_ok.1 h
  repeat' split at h
  all_goals simp only [Prod.mk.injEq] at h
  all_goals obtain ⟨rfl, -⟩ := h
  all_goals simp_all

theorem span_of_mutatingCall {n : Node} {ws : List Violation}
    (h : s.mutatingCall n = .ok ws) : ∀ v ∈ ws, v.span = some n.span := by
  intro v hv
  unfold mutatingCall at h
  split at h
  case h_2 => obtain rfl := except_pure_eq_ok.1 h; simp at hv
  split at h
  case h_2 => obtain rfl := except_pure_eq_ok.1 h; simp at hv
  obtain ⟨path?, -, h⟩ := except_bind_eq_ok.1 h
  dsimp only at h
  split at h
  case h_1 vs hby =>
    obtain rfl := except_pure_eq_ok.1 h
    repeat' split at hby
    all_goals cases hby
    all_goals simp_all [Node.span]
  case h_2 =>
    obtain ⟨method?, -, h⟩ := except_bind_eq_ok.1 h
    obtain rfl := except_pure_eq_ok.1 h
    repeat' split at hv
    all_goals simp_all [Node.span]

/-- Every breach a node reports by itself stands at the span of a node of it: the node
itself, or an identifier it gives a new value. -/
theorem exists_node_of_inspect {depth : Nat} {quiet spelled : Bool} {n : Node}
    {own : List Violation} {matched : Bool} (h : s.inspect depth quiet spelled n = .ok (own, matched)) :
    ∀ v ∈ own, ∃ m ∈ n.nodes, v.span = some m.span := by
  have hself : ∀ v : Violation, v.span = some n.span → ∃ m ∈ n.nodes, v.span = some m.span :=
    fun v hv => ⟨n, Node.self_mem_nodes n, hv⟩
  -- a rebound identifier is reported at its own span
  have hrebinding : ∀ update ident v, ident ∈ n.nodes → v ∈ s.rebinding update ident →
      ∃ m ∈ n.nodes, v.span = some m.span := by
    intro update ident v hident hv
    obtain ⟨sp, name, hid, -, -, -, hspan⟩ := mem_rebinding hv
    exact ⟨ident, hident, by rw [hspan, hid]; rfl⟩
  have hwrite : ∀ t deletes ws, s.propertyWrite depth n t deletes = .ok ws →
      ∀ v ∈ ws, ∃ m ∈ n.nodes, v.span = some m.span :=
    fun t deletes ws hws v hv => hself v (mem_propertyWrite hws hv).2.2
  intro v hv
  unfold inspect at h
  split at h
  case h_1 =>
    obtain ⟨rfl, -⟩ := Prod.mk.inj (except_pure_eq_ok.1 h)
    split at hv
    · simp at hv
    · exact hself v (span_of_mem_freeName hv)
  case h_2 =>
    split at h
    · obtain ⟨rfl, -⟩ := Prod.mk.inj (except_pure_eq_ok.1 h)
      simp at hv
    · exact hself v (span_of_forbiddenMember h v hv)
  case h_3 =>
    obtain ⟨ws, hws, h⟩ := except_bind_eq_ok.1 h
    obtain ⟨rfl, -⟩ := Prod.mk.inj (except_pure_eq_ok.1 h)
    exact hself v (span_of_mutatingCall hws v hv)
  case h_4 sp op l r =>
    split at h
    case h_1 =>
      obtain ⟨ws, hws, h⟩ := except_bind_eq_ok.1 h
      obtain ⟨rfl, -⟩ := Prod.mk.inj (except_pure_eq_ok.1 h)
      exact hwrite _ _ _ hws v hv
    case h_2 =>
      obtain ⟨rfl, -⟩ := Prod.mk.inj (except_pure_eq_ok.1 h)
      obtain ⟨ident, hident, hv⟩ := List.mem_flatMap.1 hv
      exact hrebinding _ _ _ (Node.mem_nodes_of_mem_children (by simp [Node.children])
        (Node.mem_nodes_of_mem_patternIdentifiers hident)) hv
  case h_5 sp op a prefix_ =>
    split at h
    case h_1 =>
      obtain ⟨rfl, -⟩ := Prod.mk.inj (except_pure_eq_ok.1 h)
      exact hrebinding _ _ _ (Node.mem_nodes_of_mem_children (by simp [Node.children])
        (Node.self_mem_nodes _)) hv
    case h_2 =>
      obtain ⟨rfl, -⟩ := Prod.mk.inj (except_pure_eq_ok.1 h)
      simp only [List.mem_singleton] at hv
      exact hself v (by simp [hv, Node.span])
    case h_3 =>
      obtain ⟨rfl, -⟩ := Prod.mk.inj (except_pure_eq_ok.1 h)
      simp at hv
  case h_6 =>
    split at h
    case h_1 =>
      split at h
      · obtain ⟨ws, hws, h⟩ := except_bind_eq_ok.1 h
        obtain ⟨rfl, -⟩ := Prod.mk.inj (except_pure_eq_ok.1 h)
        exact hwrite _ _ _ hws v hv
      · obtain ⟨rfl, -⟩ := Prod.mk.inj (except_pure_eq_ok.1 h)
        simp at hv
    case h_2 =>
      obtain ⟨rfl, -⟩ := Prod.mk.inj (except_pure_eq_ok.1 h)
      simp at hv
  case h_7 =>
    split at h
    case h_1 =>
      obtain ⟨rfl, -⟩ := Prod.mk.inj (except_pure_eq_ok.1 h)
      simp only [List.mem_singleton] at hv
      exact hself v (by simp [hv])
    case h_2 =>
      obtain ⟨rfl, -⟩ := Prod.mk.inj (except_pure_eq_ok.1 h)
      simp at hv

/-- Every breach a walk finds stands at the span of a node of the tree walked. -/
theorem exists_node_of_mem_walk {depth : Nat} {quiet spelled : Bool} {n : Node}
    {vs : List Violation} (h : s.walk depth quiet spelled n = .ok vs) :
    ∀ v ∈ vs, ∃ m ∈ n.nodes, v.span = some m.span := by
  intro v hv
  obtain ⟨A, dA, hA, quiet', spelled', own, matched, hinspect, hown⟩ :=
    exists_report_of_mem s n depth quiet spelled h hv
  obtain ⟨m, hm, hspan⟩ := exists_node_of_inspect hinspect v hown
  exact ⟨m, Node.mem_nodes_trans (Node.mem_nodes_of_mem_nodesAt hA) hm, hspan⟩

end Survey

/-! ## The analysis of a program -/

/-- No node reports the failure, which stands at no place in the text. -/
theorem failure_not_mem_of_walk_eq_ok {allowance : Allowance} {P : Node} {vs : List Violation}
    (h : (survey allowance P).walk 0 false false P = .ok vs) (f : PathFault) : failure f ∉ vs := by
  intro hf
  obtain ⟨m, -, hspan⟩ := Survey.exists_node_of_mem_walk h _ hf
  simp [failure] at hspan

/-- A program that holds a long index is analysed to the failure alone. -/
theorem analyzePurity_eq_failure_of_longIndex {allowance : Allowance} {P : Node}
    (h : ∃ m ∈ P.nodes, m.hasLongIndex = true) :
    analyzePurity allowance P = [failure .longInteger] := by
  obtain ⟨f, hf⟩ := (Survey.walk_eq_error_iff 0 false P).2 h
  exact analyzePurity_eq_failure fun vs hvs => by rw [hf] at hvs; cases hvs

/-- Without a long index the walk runs to its end, and every breach stands at a node. -/
theorem exists_node_of_mem_analyzePurity {allowance : Allowance} {P : Node}
    (h : ∀ m ∈ P.nodes, m.hasLongIndex = false) :
    ∀ v ∈ analyzePurity allowance P, ∃ m ∈ P.nodes, v.span = some m.span := by
  intro v hv
  cases hwalk : (survey allowance P).walk 0 false false P with
  | error e =>
    obtain ⟨m, hm, hlong⟩ := (Survey.walk_eq_error_iff 0 false P).1 ⟨e, hwalk⟩
    simp [h m hm] at hlong
  | ok vs =>
    rw [analyzePurity_eq, hwalk] at hv
    exact Survey.exists_node_of_mem_walk hwalk v hv

/-- The analysis reports the failure exactly when the program holds a long index, and then
reports it alone; otherwise every breach stands at the span of a node of the program.  The
kind of every declaration is a keyword the scope builder knows, and it declares the binding
of that name. -/
theorem analysisFailure_iff_longIndex (allowance : Allowance) (P : Node) :
    ((∃ f, failure f ∈ analyzePurity allowance P) ↔ ∃ m ∈ P.nodes, m.hasLongIndex = true) ∧
      ((∃ m ∈ P.nodes, m.hasLongIndex = true) →
        analyzePurity allowance P = [failure .longInteger]) ∧
      ((∀ m ∈ P.nodes, m.hasLongIndex = false) →
        ∀ v ∈ analyzePurity allowance P, ∃ m ∈ P.nodes, v.span = some m.span) ∧
      ∀ k : DeclarationKind, k.keyword ∈ ["var", "let", "const"] ∧ k.binding.name = k.keyword := by
  refine ⟨⟨?_, fun h => ?_⟩, analyzePurity_eq_failure_of_longIndex,
    exists_node_of_mem_analyzePurity, fun k => by cases k <;> decide⟩
  · rintro ⟨f, hf⟩
    cases hwalk : (survey allowance P).walk 0 false false P with
    | error e => exact (Survey.walk_eq_error_iff 0 false P).1 ⟨e, hwalk⟩
    | ok vs =>
      rw [analyzePurity_eq, hwalk] at hf
      exact absurd hf (failure_not_mem_of_walk_eq_ok hwalk f)
  · rw [analyzePurity_eq_failure_of_longIndex h]
    exact ⟨.longInteger, List.mem_singleton_self _⟩

/-- `x = 1; o[0xf…f];` holds a long index, and its analysis is the failure alone: the write to
the free variable `x` goes unreported. -/
theorem longIndexProgram_fails_alone :
    (∃ m ∈ longIndexProgram.nodes, m.hasLongIndex = true) ∧
      analyzePurity {} longIndexProgram = [failure .longInteger] := by
  have hlong : ∃ m ∈ longIndexProgram.nodes, m.hasLongIndex = true := by
    refine ⟨longIndex, ?_, ?_⟩
    · exact Node.mem_nodes_of_mem_children (List.mem_cons_of_mem _ List.mem_cons_self) <|
        Node.mem_nodes_of_mem_children List.mem_cons_self (Node.self_mem_nodes _)
    · exact Node.hasLongIndex_member Numeral.printable_longHex
  exact ⟨hlong, (analysisFailure_iff_longIndex {} longIndexProgram).2.1 hlong⟩

/-- The member of `o[0xf…f];`, whose index has 3600 digits f.  The raw text of the index,
which no analysis reads, is written shortened. -/
def longIndexAlone : Node :=
  .memberExpression (.onFirstLine 0 3605) (.identifier (.onFirstLine 0 1) "o")
    (.literal (.onFirstLine 2 3604) (.int ((16 ^ 3600 - 1 : Nat) : Int)) "0xf…f" none none)
    true false

/-- `o[0xf…f];` -/
def longIndexAloneProgram : Node :=
  .program (.onFirstLine 0 3606) [.expressionStatement (.onFirstLine 0 3606) longIndexAlone] false

/-- The program `o[0xf…f];`, which reads and breaches nothing, is analysed to the failure. -/
theorem longIndexMember_analysisFailure :
    longIndexAloneProgram.WellShaped ∧
      analyzePurity {} longIndexAloneProgram = [failure .longInteger] ∧
      (failure .longInteger).pattern = "analysis failure" := by
  have hmem : longIndexAlone ∈ longIndexAloneProgram.nodes :=
    Node.mem_nodes_of_mem_children List.mem_cons_self <|
      Node.mem_nodes_of_mem_children List.mem_cons_self (Node.self_mem_nodes _)
  have hlong : longIndexAlone.hasLongIndex = true :=
    Node.hasLongIndex_member Numeral.printable_longHex
  exact ⟨⟨⟨_, _, _, rfl⟩, by decide +kernel⟩,
    analyzePurity_eq_failure_of_longIndex ⟨_, hmem, hlong⟩, rfl⟩

end Purity

end ScriptGate
