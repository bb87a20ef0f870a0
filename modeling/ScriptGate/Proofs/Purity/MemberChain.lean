import ScriptGate.Proofs.Purity.Allowance
import ScriptGate.Proofs.Purity.Rebinding

/-!
# A member chain reports a forbidden access at most once

A member chain such as the callee of `fs.promises.readFile(p)` is a member, its object, that
object's object and so on down to a root, with optional-chain wrappers between them
(`Node.chainNodes`).  The walk reaches the top of a chain unquieted, since nothing above it
continues the chain (`Node.linkedNodes`, `Survey.walk_of_mem_linkedNodes`), and checks the links
from the outermost in.  The first link whose path is forbidden and not let through, under a root
that the program does not bind to anything but a module (`Survey.Hits`), is reported under the
pattern it matched, and it quiets the rest of the chain.  When no link matches, the root is
reported if it is a free forbidden name (`Survey.FreeForbidden`).  So a chain makes at most one
forbidden access, and it is the right one (`memberChain_reports_once`).

`Survey.chainReports` lists what the walk reports at the nodes of a chain; the walk's findings
hold that list in order (`Survey.walk_chain`).

A root that the scopes hold no reference for, such as a name inside a member leaf of a
declaration pattern, is not bound, so the links above it may match; it is never reported
itself, since no reference says it is free.  And the reports of a chain reach the analysis only
when the walk runs to the end: a member index too long to spell stops it, and the fault is then
all that is reported (`exitBeforeLongIndex_unreported`).
-/

namespace ScriptGate

/-- Whether a violation is a forbidden access: the use of a forbidden global name or member
path, which reads global state or has an effect. -/
def Violation.isAccess (v : Violation) : Bool :=
  v.kind == .globalAccess || v.kind == .sideEffect

/-- A violation of the kind a hazard gives is a forbidden access. -/
theorem Violation.isAccess_of_kind {v : Violation} {hz : Hazard} (h : v.kind = hz.kind) :
    v.isAccess = true := by
  cases hz <;> simp [isAccess, h, Hazard.kind]

namespace Node

/-- Whether a node continues a member chain below it: a member or an optional chain. -/
def isChainLink : Node → Bool
  | memberExpression .. | chainExpression .. => true
  | _ => false

/-- The nodes of the member chain that starts at `n`, from `n` down: while the node is a member
or an optional chain, its object or the link under it follows, down to the root. -/
def chainNodes : Node → List Node
  | n@(memberExpression _ o ..) => n :: o.chainNodes
  | n@(chainExpression _ e) => n :: e.chainNodes
  | n => [n]

/-- The links of the chain that starts at `n`: its members, outermost first. -/
def chainLinks (n : Node) : List Node := n.chainNodes.filter isMember

@[simp] theorem chainLinks_memberExpression (sp : Span) (o p : Node) (computed opt : Bool) :
    (memberExpression sp o p computed opt).chainLinks =
      memberExpression sp o p computed opt :: o.chainLinks := by
  rw [chainLinks, chainNodes, List.filter_cons_of_pos rfl]
  rfl

@[simp] theorem chainLinks_chainExpression (sp : Span) (e : Node) :
    (chainExpression sp e).chainLinks = e.chainLinks := by
  rw [chainLinks, chainNodes, List.filter_cons_of_neg (by simp [isMember])]
  rfl

theorem chainLinks_of_not_isChainLink {n : Node} (h : n.isChainLink = false) :
    n.chainLinks = [] := by
  cases n <;> simp_all [isChainLink, chainLinks, chainNodes, isMember]

theorem root_of_not_isChainLink {n : Node} (h : n.isChainLink = false) : n.root = n := by
  cases n <;> simp_all [isChainLink, root, memberRoot]

theorem isChainLink_of_unwrapped {n : Node} (h : n.unwrapped.isMember = true) :
    n.isChainLink = true := by
  cases n <;> simp_all [isChainLink, unwrapped, unwrapChain, isMember]

/-- The nodes of a tree in pre-order, each with whether it continues the member chain of its
parent: whether it is the object of a member or the link under an optional chain. -/
def linkedNodes (link : Bool) (n : Node) : List (Node × Bool) :=
  (n, link) :: (Purity.marked n).attach.flatMap fun ⟨(c, l, _), _⟩ => c.linkedNodes l
termination_by sizeOf n
decreasing_by exact sizeOf_lt_of_mem_children (Purity.mem_children_of_mem_marked ‹_›)

theorem self_mem_linkedNodes (link : Bool) (n : Node) : (n, link) ∈ n.linkedNodes link := by
  rw [linkedNodes]
  exact List.mem_cons_self

theorem mem_linkedNodes_of_mem_marked {link l name : Bool} {n c : Node} {x : Node × Bool}
    (hc : (c, l, name) ∈ Purity.marked n) (hx : x ∈ c.linkedNodes l) :
    x ∈ n.linkedNodes link := by
  rw [linkedNodes]
  exact List.mem_cons_of_mem _
    (List.mem_flatMap.2 ⟨⟨(c, l, name), hc⟩, List.mem_attach _ _, hx⟩)

theorem mem_linkedNodes {link : Bool} {n : Node} {x : Node × Bool}
    (hx : x ∈ n.linkedNodes link) :
    x = (n, link) ∨ ∃ c l name, (c, l, name) ∈ Purity.marked n ∧ x ∈ c.linkedNodes l := by
  rw [linkedNodes] at hx
  rcases List.mem_cons.1 hx with rfl | hx
  · exact .inl rfl
  · obtain ⟨⟨⟨c, l, name⟩, hc⟩, -, hx⟩ := List.mem_flatMap.1 hx
    exact .inr ⟨c, l, name, hc, hx⟩

end Node

namespace Purity

@[simp] theorem marked_memberExpression (sp : Span) (o p : Node) (computed opt : Bool) :
    marked (.memberExpression sp o p computed opt) = [(o, true, false), (p, false, !computed)] := by
  simp [marked, Node.spelledChildren]

@[simp] theorem marked_chainExpression (sp : Span) (e : Node) :
    marked (.chainExpression sp e) = [(e, true, false)] := by
  simp [marked, Node.spelledChildren, Node.children]

/-- A path that the forbidden patterns match has a hazard: the pattern is one of the table's. -/
theorem lookup_of_match?_forbiddenSet {path m : String} (h : forbiddenSet.match? path = some m) :
    ∃ hz, forbiddenMembers.lookup m = some hz := by
  have hmem : m ∈ forbiddenMembers.map (·.1) := by
    unfold forbiddenSet PatternSet.match? at h
    split at h
    case isTrue hexact =>
      obtain rfl := Option.some.inj h
      exact (PatternSet.mem_exact_ofList.1 (List.contains_iff_mem.1 hexact)).1
    case isFalse =>
      obtain ⟨w, hw, rfl⟩ := Option.map_eq_some_iff.1 h
      exact (PatternSet.mem_wildcards_ofList.1 (List.mem_of_find?_eq_some hw)).1
  obtain ⟨⟨k, hz⟩, hk, rfl⟩ := List.mem_map.1 hmem
  cases hlookup : forbiddenMembers.lookup k with
  | some hz' => exact ⟨hz', rfl⟩
  | none =>
    rw [List.lookup_eq_none_iff] at hlookup
    exact absurd (hlookup (k, hz) hk) (by simp)

namespace Survey

variable {s : Survey}

/-- A link of a chain matches a forbidden path: its path `path` is matched by the forbidden
pattern `m` and not let through, and its root is not bound to a declaration of the program,
unless that declaration holds a module. -/
def Hits (s : Survey) (L : Node) (path m : String) : Prop :=
  L.memberPath? = .ok (some path) ∧ s.hasBoundRoot L = false ∧
    forbiddenSet.match? path = some m ∧ s.allowance.allows path = false

/-- The root of a chain is a free forbidden name: an identifier whose reference resolves to
nothing, whose name is forbidden with hazard `hz` and not let through. -/
def FreeForbidden (s : Survey) (n : Node) (sp : Span) (name : String) (hz : Hazard) : Prop :=
  n = .identifier sp name ∧ (∃ r, s.referenceOf n = some r ∧ r.binding = none) ∧
    name ∉ s.allowance.names ∧ forbiddenNames.lookup name = some hz

/-- The reports the walk makes at the nodes of the member chain that starts at `n`, which it
reaches with `quiet` set when a link above has matched. -/
def chainReports (s : Survey) (depth : Nat) (quiet : Bool) :
    Node → Except PathFault (List Violation)
  | n@(.memberExpression _ o ..) => do
    let (own, matched) ← s.inspect depth quiet false n
    return own ++ (← s.chainReports depth (quiet || matched) o)
  | n@(.chainExpression _ e) => do
    let (own, matched) ← s.inspect depth quiet false n
    return own ++ (← s.chainReports depth (quiet || matched) e)
  | n => do return (← s.inspect depth quiet false n).1

/-! ## The checks along a chain -/

theorem inspect_memberExpression (depth : Nat) (quiet spelled : Bool) (sp : Span) (o p : Node)
    (computed opt : Bool) :
    s.inspect depth quiet spelled (.memberExpression sp o p computed opt) =
      if quiet then .ok ([], false)
      else s.forbiddenMember (.memberExpression sp o p computed opt) :=
  rfl

@[simp] theorem inspect_chainExpression (depth : Nat) (quiet spelled : Bool) (sp : Span)
    (e : Node) : s.inspect depth quiet spelled (.chainExpression sp e) = .ok ([], false) := by
  simp [inspect, Node.typeName, forbiddenConstruct?]
  rfl

theorem freeName_eq_of_freeForbidden {n : Node} {sp : Span} {name : String} {hz : Hazard}
    (h : s.FreeForbidden n sp name hz) :
    s.freeName n = [⟨hz.kind, name, hz.describe name, some sp⟩] := by
  obtain ⟨rfl, ⟨r, hr, hbinding⟩, hallowed, hlookup⟩ := h
  simp [freeName, hr, hbinding, hallowed, hlookup]

theorem freeName_eq_nil {n : Node} (h : ∀ sp name hz, ¬s.FreeForbidden n sp name hz) :
    s.freeName n = [] := by
  unfold freeName
  split
  case h_1 sp name r hr =>
    split
    · rfl
    · split
      case h_1 hz hlookup =>
        refine absurd ⟨rfl, ⟨r, hr, ?_⟩, ?_, hlookup⟩ (h sp name hz) <;> simp_all
      case h_2 => rfl
  case h_2 => rfl

theorem length_freeName_le_one (n : Node) : (s.freeName n).length ≤ 1 := by
  unfold freeName
  repeat' split
  all_goals simp

theorem isAccess_of_mem_freeName {n : Node} {v : Violation} (hv : v ∈ s.freeName n) :
    v.isAccess = true := by
  unfold freeName at hv
  repeat' split at hv
  all_goals simp only [List.mem_singleton, List.not_mem_nil] at hv
  subst hv
  exact Violation.isAccess_of_kind rfl

/-- A matching link is reported under the pattern it matched, at itself, and quiets its chain. -/
theorem forbiddenMember_of_hits {L : Node} {path m : String} (h : s.Hits L path m) :
    ∃ hz, forbiddenMembers.lookup m = some hz ∧
      s.forbiddenMember L = .ok ([⟨hz.kind, m, hz.describe path, some L.span⟩], true) := by
  obtain ⟨hpath, hbound, hmatch, hallowed⟩ := h
  obtain ⟨hz, hlookup⟩ := lookup_of_match?_forbiddenSet hmatch
  refine ⟨hz, hlookup, ?_⟩
  rw [forbiddenMember_of_memberPath? hpath]
  simp [hbound, hmatch, hallowed, hlookup]

/-- A member reports nothing and leaves its chain unquieted, or it is a matching link. -/
theorem forbiddenMember_eq_ok {L : Node} {own : List Violation} {matched : Bool}
    (h : s.forbiddenMember L = .ok (own, matched)) :
    (own = [] ∧ matched = false) ∨ ∃ path m, s.Hits L path m := by
  unfold forbiddenMember at h
  obtain ⟨path?, hpath, h⟩ := except_bind_eq_ok.1 h
  rw [except_pure_eq_ok] at h
  have hquiet : (([], false) : List Violation × Bool) = (own, matched) →
      (own = [] ∧ matched = false) ∨ ∃ path m, s.Hits L path m := by
    rintro ⟨⟩
    exact .inl ⟨rfl, rfl⟩
  split at h
  case h_1 => exact hquiet h
  case h_2 path =>
    split at h
    case isTrue => exact hquiet h
    case isFalse hbound =>
      split at h
      case h_1 => exact hquiet h
      case h_2 m hmatch =>
        split at h
        case isTrue => exact hquiet h
        case isFalse hallowed =>
          -- past every exemption: the member matches, whatever its hazard
          exact .inr ⟨path, m, hpath, by simpa using hbound, hmatch,
            by simpa [Allowance.allows] using hallowed⟩

/-- Every call on a member that the walk reports mutates. -/
theorem kind_of_mem_mutatingCall {n : Node} {ws : List Violation} {v : Violation}
    (h : s.mutatingCall n = .ok ws) (hv : v ∈ ws) : v.kind = .mutation := by
  unfold mutatingCall at h
  split at h
  case h_2 => obtain rfl := except_pure_eq_ok.1 h; simp at hv
  split at h
  case h_2 => obtain rfl := except_pure_eq_ok.1 h; simp at hv
  obtain ⟨path?, -, h⟩ := except_bind_eq_ok.1 h
  dsimp only at h
  split at h
  case h_1 vs hby =>
    obtain rfl := except_pure_eq_ok.1 h
    repeat' split at hby
    all_goals cases hby
    all_goals simp_all
  case h_2 =>
    obtain ⟨method?, -, h⟩ := except_bind_eq_ok.1 h
    obtain rfl := except_pure_eq_ok.1 h
    repeat' split at hv
    all_goals simp_all

theorem freeName_eq_nil_of_ne {n : Node} (h : ∀ sp name, n ≠ .identifier sp name) :
    s.freeName n = [] := by
  unfold freeName
  split
  case h_1 sp name _ _ => exact absurd rfl (h sp name)
  case h_2 => rfl

/-- Below the top of a chain, every check but the two of names and paths reports a mutation or
a forbidden construct, never a forbidden access. -/
theorem filter_isAccess_inspect_of_not_identifier {depth : Nat} {quiet spelled : Bool} {R : Node}
    {own : List Violation} {matched : Bool} (hR : R.isChainLink = false)
    (hid : ∀ sp name, R ≠ .identifier sp name)
    (h : s.inspect depth quiet spelled R = .ok (own, matched)) :
    own.filter Violation.isAccess = [] := by
  have hnone : ∀ vs : List Violation, (∀ v ∈ vs, v.kind = .mutation) →
      vs.filter Violation.isAccess = [] := fun vs hvs =>
    List.filter_eq_nil_iff.2 fun v hv => by simp [Violation.isAccess, hvs v hv]
  have hrebinding : ∀ update ident v, v ∈ s.rebinding update ident → v.kind = .mutation := by
    intro update ident v hv
    obtain ⟨-, -, -, -, hkind, -⟩ := mem_rebinding hv
    exact hkind
  unfold inspect at h
  split at h
  case h_1 => exact absurd rfl (hid _ _)
  case h_2 => cases hR
  case h_3 =>
    obtain ⟨ws, hws, h⟩ := except_bind_eq_ok.1 h
    obtain ⟨rfl, -⟩ := Prod.mk.inj (except_pure_eq_ok.1 h)
    exact hnone _ fun v hv => kind_of_mem_mutatingCall hws hv
  case h_4 =>
    split at h
    case h_1 =>
      obtain ⟨ws, hws, h⟩ := except_bind_eq_ok.1 h
      obtain ⟨rfl, -⟩ := Prod.mk.inj (except_pure_eq_ok.1 h)
      exact hnone _ fun v hv => (mem_propertyWrite hws hv).1
    case h_2 =>
      obtain ⟨rfl, -⟩ := Prod.mk.inj (except_pure_eq_ok.1 h)
      refine hnone _ fun v hv => ?_
      obtain ⟨ident, -, hv⟩ := List.mem_flatMap.1 hv
      exact hrebinding _ _ _ hv
  case h_5 =>
    split at h
    all_goals obtain ⟨rfl, -⟩ := Prod.mk.inj (except_pure_eq_ok.1 h)
    case h_1 => exact hnone _ fun v hv => hrebinding _ _ _ hv
    all_goals simp [Violation.isAccess]
  case h_6 =>
    split at h
    case h_1 =>
      split at h
      · obtain ⟨ws, hws, h⟩ := except_bind_eq_ok.1 h
        obtain ⟨rfl, -⟩ := Prod.mk.inj (except_pure_eq_ok.1 h)
        exact hnone _ fun v hv => (mem_propertyWrite hws hv).1
      · obtain ⟨rfl, -⟩ := Prod.mk.inj (except_pure_eq_ok.1 h)
        rfl
    case h_2 =>
      obtain ⟨rfl, -⟩ := Prod.mk.inj (except_pure_eq_ok.1 h)
      rfl
  case h_7 =>
    split at h
    all_goals obtain ⟨rfl, -⟩ := Prod.mk.inj (except_pure_eq_ok.1 h)
    all_goals simp [Violation.isAccess]

/-- At the root of a chain the only forbidden access is a free name, reported unless the chain
is quiet. -/
theorem filter_isAccess_inspect_root {depth : Nat} {quiet : Bool} {R : Node}
    {own : List Violation} {matched : Bool} (hR : R.isChainLink = false)
    (h : s.inspect depth quiet false R = .ok (own, matched)) :
    own.filter Violation.isAccess = if quiet then [] else s.freeName R := by
  by_cases hid : ∃ sp name, R = .identifier sp name
  · obtain ⟨sp, name, rfl⟩ := hid
    have hident : s.inspect depth quiet false (.identifier sp name) =
        .ok (if quiet then [] else s.freeName (.identifier sp name), false) := by
      cases quiet <;> rfl
    rw [hident] at h
    obtain ⟨rfl, -⟩ := Prod.mk.inj (Except.ok.inj h).symm
    cases quiet
    · exact List.filter_eq_self.2 fun v hv => isAccess_of_mem_freeName hv
    · rfl
  · simp only [not_exists] at hid
    rw [freeName_eq_nil_of_ne hid, ite_self]
    exact filter_isAccess_inspect_of_not_identifier hR hid h

/-! ## The reports along a chain -/

theorem chainReports_memberExpression_eq_ok {depth : Nat} {quiet : Bool} {sp : Span}
    {o p : Node} {computed opt : Bool} {rs : List Violation} :
    s.chainReports depth quiet (.memberExpression sp o p computed opt) = .ok rs ↔
      ∃ own matched rest,
        s.inspect depth quiet false (.memberExpression sp o p computed opt) = .ok (own, matched) ∧
        s.chainReports depth (quiet || matched) o = .ok rest ∧ rs = own ++ rest := by
  rw [chainReports, except_bind_eq_ok]
  constructor
  · rintro ⟨⟨own, matched⟩, hinspect, h⟩
    obtain ⟨rest, hrest, h⟩ := except_bind_eq_ok.1 h
    exact ⟨own, matched, rest, hinspect, hrest, (except_pure_eq_ok.1 h).symm⟩
  · rintro ⟨own, matched, rest, hinspect, hrest, rfl⟩
    exact ⟨(own, matched), hinspect, except_bind_eq_ok.2 ⟨rest, hrest, rfl⟩⟩

/-- An optional chain reports nothing itself: its chain's reports are those below it. -/
@[simp] theorem chainReports_chainExpression (depth : Nat) (quiet : Bool) (sp : Span) (e : Node) :
    s.chainReports depth quiet (.chainExpression sp e) = s.chainReports depth quiet e := by
  rw [chainReports, inspect_chainExpression]
  simp only [bind, Except.bind, Bool.or_false]
  cases s.chainReports depth quiet e <;> rfl

/-- The root of a chain reports what its own inspection finds. -/
theorem chainReports_root {depth : Nat} {quiet : Bool} {R : Node} (hR : R.isChainLink = false)
    {rs : List Violation} :
    s.chainReports depth quiet R = .ok rs ↔
      ∃ matched, s.inspect depth quiet false R = .ok (rs, matched) := by
  have hroot :
      s.chainReports depth quiet R = (do return (← s.inspect depth quiet false R).1) := by
    cases R
    all_goals try cases hR
    all_goals unfold chainReports; rfl
  rw [hroot, except_bind_eq_ok]
  constructor
  · rintro ⟨⟨own, matched⟩, hinspect, h⟩
    obtain rfl := except_pure_eq_ok.1 h
    exact ⟨matched, hinspect⟩
  · rintro ⟨matched, hinspect⟩
    exact ⟨(rs, matched), hinspect, rfl⟩

/-- Under a link that matched, a chain reports no forbidden access. -/
theorem chainReports_quiet {depth : Nat} (T : Node) {rs : List Violation}
    (h : s.chainReports depth true T = .ok rs) : rs.filter Violation.isAccess = [] := by
  cases hT : T.isChainLink
  case false =>
    obtain ⟨matched, hinspect⟩ := (chainReports_root hT).1 h
    simpa using filter_isAccess_inspect_root hT hinspect
  case true =>
    cases T
    all_goals try cases hT
    case memberExpression sp o p computed opt =>
      obtain ⟨own, matched, rest, hinspect, hrest, rfl⟩ :=
        chainReports_memberExpression_eq_ok.1 h
      obtain ⟨rfl, -⟩ := Prod.mk.inj (Except.ok.inj hinspect).symm
      exact chainReports_quiet o hrest
    case chainExpression sp e =>
      rw [chainReports_chainExpression] at h
      exact chainReports_quiet e h

/-- The first link of a chain that matches is the one forbidden access the chain reports. -/
theorem chainReports_hit {depth : Nat} (T : Node) {pre post : List Node} {L : Node}
    {path m : String} (hsplit : T.chainLinks = pre ++ L :: post)
    (hpre : ∀ L' ∈ pre, ∀ path' m', ¬s.Hits L' path' m') (hhit : s.Hits L path m)
    {rs : List Violation} (h : s.chainReports depth false T = .ok rs) :
    ∃ hz, forbiddenMembers.lookup m = some hz ∧
      rs.filter Violation.isAccess = [⟨hz.kind, m, hz.describe path, some L.span⟩] := by
  cases hT : T.isChainLink
  case false => simp [Node.chainLinks_of_not_isChainLink hT] at hsplit
  case true =>
    cases T
    all_goals try cases hT
    case memberExpression sp o p computed opt =>
      obtain ⟨own, matched, rest, hinspect, hrest, rfl⟩ :=
        chainReports_memberExpression_eq_ok.1 h
      rw [inspect_memberExpression, if_neg Bool.false_ne_true] at hinspect
      rw [Node.chainLinks_memberExpression] at hsplit
      cases pre with
      | nil =>
        -- the outermost link matches: it is reported, and everything below it is quiet
        obtain ⟨rfl, -⟩ := List.cons.inj hsplit
        obtain ⟨hz, hlookup, hfm⟩ := forbiddenMember_of_hits hhit
        obtain ⟨rfl, rfl⟩ := Prod.mk.inj (Except.ok.inj (hfm.symm.trans hinspect))
        refine ⟨hz, hlookup, ?_⟩
        rw [List.filter_append, chainReports_quiet o hrest,
          List.filter_cons_of_pos (Violation.isAccess_of_kind rfl)]
        rfl
      | cons L' pre =>
        -- the outermost link misses: it reports nothing and the chain below goes on unquieted
        rw [List.cons_append, List.cons.injEq] at hsplit
        obtain ⟨rfl, hsplit⟩ := hsplit
        rcases forbiddenMember_eq_ok hinspect with ⟨rfl, rfl⟩ | ⟨path', m', hhit'⟩
        · exact chainReports_hit o hsplit (fun L hL => hpre L (List.mem_cons_of_mem _ hL)) hhit
            hrest
        · exact absurd hhit' (hpre _ List.mem_cons_self path' m')
    case chainExpression sp e =>
      rw [chainReports_chainExpression] at h
      rw [Node.chainLinks_chainExpression] at hsplit
      exact chainReports_hit e hsplit hpre hhit h

/-- A chain none of whose links matches reports no forbidden access but a free forbidden name
at its root. -/
theorem chainReports_miss {depth : Nat} (T : Node)
    (hmiss : ∀ L ∈ T.chainLinks, ∀ path m, ¬s.Hits L path m) {rs : List Violation}
    (h : s.chainReports depth false T = .ok rs) :
    rs.filter Violation.isAccess = s.freeName T.root := by
  cases hT : T.isChainLink
  case false =>
    obtain ⟨matched, hinspect⟩ := (chainReports_root hT).1 h
    rw [Node.root_of_not_isChainLink hT]
    simpa using filter_isAccess_inspect_root hT hinspect
  case true =>
    cases T
    all_goals try cases hT
    case memberExpression sp o p computed opt =>
      obtain ⟨own, matched, rest, hinspect, hrest, rfl⟩ :=
        chainReports_memberExpression_eq_ok.1 h
      rw [inspect_memberExpression, if_neg Bool.false_ne_true] at hinspect
      rw [Node.chainLinks_memberExpression] at hmiss
      rcases forbiddenMember_eq_ok hinspect with ⟨rfl, rfl⟩ | ⟨path, m, hhit⟩
      · rw [Node.root_memberExpression, List.nil_append]
        exact chainReports_miss o (fun L hL => hmiss L (List.mem_cons_of_mem _ hL)) hrest
      · exact absurd hhit (hmiss _ List.mem_cons_self path m)
    case chainExpression sp e =>
      rw [chainReports_chainExpression] at h
      rw [Node.chainLinks_chainExpression] at hmiss
      rw [Node.root_chainExpression]
      exact chainReports_miss e hmiss h

/-- An unquieted chain reports at most one forbidden access. -/
theorem length_filter_chainReports_le_one {depth : Nat} (T : Node) {rs : List Violation}
    (h : s.chainReports depth false T = .ok rs) : (rs.filter Violation.isAccess).length ≤ 1 := by
  classical
  cases hfind : T.chainLinks.find? (fun L => decide (∃ path m, s.Hits L path m)) with
  | some L =>
    obtain ⟨hL, pre, post, hsplit, hpre⟩ := List.find?_eq_some_iff_append.1 hfind
    obtain ⟨path, m, hhit⟩ := of_decide_eq_true hL
    have hpre' : ∀ L' ∈ pre, ∀ path' m', ¬s.Hits L' path' m' := fun L' hL' => by
      simpa using hpre L' hL'
    obtain ⟨hz, -, hfilter⟩ := chainReports_hit T hsplit hpre' hhit h
    simp [hfilter]
  | none =>
    have hmiss : ∀ L ∈ T.chainLinks, ∀ path m, ¬s.Hits L path m := fun L hL => by
      simpa using List.find?_eq_none.1 hfind L hL
    rw [chainReports_miss T hmiss h]
    exact length_freeName_le_one _

/-! ## The walk along a chain -/

/-- Where the walk goes down a chain, its findings hold the chain's reports in order: the
spelling flag matters only at the root, which the chain reaches as the object of a member or the
link under an optional chain, never spelled. -/
theorem walk_chain {depth : Nat} {quiet spelled : Bool} (T : Node) {ws : List Violation}
    (hsp : spelled = false ∨ T.isChainLink = true) (h : s.walk depth quiet spelled T = .ok ws) :
    ∃ rs, s.chainReports depth quiet T = .ok rs ∧ rs.Sublist ws := by
  obtain ⟨own, matched, found, hinspect, hchildren, -, rfl⟩ := walk_eq_ok h
  cases hT : T.isChainLink
  case false =>
    obtain rfl : spelled = false := by simpa [hT] using hsp
    exact ⟨own, (chainReports_root hT).2 ⟨matched, hinspect⟩, List.sublist_append_left _ _⟩
  case true =>
    cases T
    all_goals try cases hT
    case memberExpression sp o p computed opt =>
      obtain ⟨w, hw, hwalk⟩ := hchildren o true false (by simp)
      rw [Bool.and_true] at hwalk
      obtain ⟨rest, hrest, hsub⟩ := walk_chain o (.inl rfl) hwalk
      refine ⟨own ++ rest, chainReports_memberExpression_eq_ok.2
        ⟨own, matched, rest, hinspect, hrest, rfl⟩, ?_⟩
      exact (hsub.trans (List.infix_of_mem_flatten hw).sublist).append_left own
    case chainExpression sp e =>
      obtain ⟨w, hw, hwalk⟩ := hchildren e true false (by simp)
      rw [inspect_chainExpression] at hinspect
      obtain ⟨rfl, rfl⟩ := Prod.mk.inj (Except.ok.inj hinspect).symm
      rw [Bool.and_true, Bool.or_false] at hwalk
      obtain ⟨rest, hrest, hsub⟩ := walk_chain e (.inl rfl) hwalk
      rw [chainReports_chainExpression]
      exact ⟨rest, hrest, hsub.trans (List.infix_of_mem_flatten hw).sublist⟩

/-- The walk reaches every node of the tree, and a node that continues no chain of its parent
unquieted. -/
theorem walk_of_mem_linkedNodes {depth : Nat} {quiet spelled link : Bool} (n : Node)
    {vs : List Violation} (h : s.walk depth quiet spelled n = .ok vs)
    (hquiet : link = false → quiet = false) {T : Node} {b : Bool}
    (hT : (T, b) ∈ n.linkedNodes link) :
    ∃ depth' quiet' spelled' ws, s.walk depth' quiet' spelled' T = .ok ws ∧
      (b = false → quiet' = false) ∧ ws <:+: vs := by
  rcases Node.mem_linkedNodes hT with heq | ⟨c, l, name, hm, hT⟩
  · obtain ⟨rfl, rfl⟩ := Prod.mk.inj heq
    exact ⟨depth, quiet, spelled, vs, h, hquiet, List.infix_refl vs⟩
  · -- a child is walked quiet only as a link of its parent's chain
    obtain ⟨own, matched, found, -, hchildren, -, rfl⟩ := walk_eq_ok h
    obtain ⟨w, hw, hwalk⟩ := hchildren c l name hm
    obtain ⟨depth', quiet', spelled', ws, hws, hq, hinfix⟩ :=
      walk_of_mem_linkedNodes c hwalk (fun hl => by simp [hl]) hT
    refine ⟨depth', quiet', spelled', ws, hws, hq, hinfix.trans ?_⟩
    exact (List.infix_of_mem_flatten hw).trans (List.suffix_append own found.flatten).isInfix
termination_by sizeOf n
decreasing_by exact Node.sizeOf_lt_of_mem_children (mem_children_of_mem_marked hm)

end Survey

/-! ## One chain, one access -/

/-- Each maximal member chain of a program, an outermost member under its optional-chain
wrappers, reports at most one forbidden access when the analysis runs to the end.  It is the
first link from the outside whose path is forbidden and not let through, under a root that is
free or holds a module, reported at that link under the forbidden pattern it matched; failing
such a link, it is the root, when the root is a free forbidden name that is not let through;
failing that, there is none. -/
theorem memberChain_reports_once (allowance : Allowance) (P T : Node)
    (hT : (T, false) ∈ P.linkedNodes false) (hmember : T.unwrapped.isMember = true)
    (hrun : ∃ vs, (survey allowance P).walk 0 false false P = .ok vs) :
    ∃ depth rs, (survey allowance P).chainReports depth false T = .ok rs ∧
      rs.Sublist (analyzePurity allowance P) ∧ (rs.filter Violation.isAccess).length ≤ 1 ∧
      (∀ pre L post path m, T.chainLinks = pre ++ L :: post →
        (∀ L' ∈ pre, ∀ path' m', ¬(survey allowance P).Hits L' path' m') →
        (survey allowance P).Hits L path m →
        ∃ hz, forbiddenMembers.lookup m = some hz ∧
          rs.filter Violation.isAccess = [⟨hz.kind, m, hz.describe path, some L.span⟩]) ∧
      ((∀ L ∈ T.chainLinks, ∀ path m, ¬(survey allowance P).Hits L path m) →
        (∀ sp name hz, (survey allowance P).FreeForbidden T.root sp name hz →
          rs.filter Violation.isAccess = [⟨hz.kind, name, hz.describe name, some sp⟩]) ∧
        ((∀ sp name hz, ¬(survey allowance P).FreeForbidden T.root sp name hz) →
          rs.filter Violation.isAccess = [])) := by
  obtain ⟨vs, hwalk⟩ := hrun
  -- nothing above the top of the chain continues it, so the walk comes to it unquieted
  obtain ⟨depth, quiet, spelled, ws, hwT, hquiet, hinfix⟩ :=
    Survey.walk_of_mem_linkedNodes P hwalk (fun _ => rfl) hT
  obtain rfl := hquiet rfl
  obtain ⟨rs, hrs, hsub⟩ :=
    Survey.walk_chain T (.inr (Node.isChainLink_of_unwrapped hmember)) hwT
  refine ⟨depth, rs, hrs, ?_, Survey.length_filter_chainReports_le_one T hrs,
    fun pre L post path m hsplit hpre hhit => Survey.chainReports_hit T hsplit hpre hhit hrs,
    fun hmiss => ⟨fun sp name hz hfree => ?_, fun hnot => ?_⟩⟩
  · rw [analyzePurity_eq, hwalk]
    exact hsub.trans hinfix.sublist
  · rw [Survey.chainReports_miss T hmiss hrs, Survey.freeName_eq_of_freeForbidden hfree]
  · rw [Survey.chainReports_miss T hmiss hrs, Survey.freeName_eq_nil hnot]

/-- The callee of `process.exit(1);`. -/
def processExit : Node :=
  .memberExpression (.onFirstLine 0 12) (.identifier (.onFirstLine 0 7) "process")
    (.identifier (.onFirstLine 8 12) "exit") false false

/-- The callee of `process.exit(1);` matches the forbidden path `process.exit`: the name
`process` is free, and nothing lets the path through. -/
theorem processExit_hits (P : Node)
    (hfree : (survey {} P).hasBoundRoot processExit = false) :
    (survey {} P).Hits processExit "process.exit" "process.exit" :=
  ⟨rfl, hfree, by decide +kernel,
    show Allowance.allows {} "process.exit" = false by decide +kernel⟩

/-- In `process.exit(1);` the chain of the callee reports one forbidden access: at the member,
under its own path. -/
theorem exitCall_reports_once :
    (processExit, false) ∈ exitProgram.linkedNodes false ∧ processExit.unwrapped.isMember = true ∧
      (∃ vs, (survey {} exitProgram).walk 0 false false exitProgram = .ok vs) ∧
      ∃ rs : List Violation, rs.Sublist (analyzePurity {} exitProgram) ∧
        rs.filter Violation.isAccess = [⟨.globalAccess, "process.exit",
          Hazard.process.describe "process.exit", some (.onFirstLine 0 12)⟩] := by
  have hT : (processExit, false) ∈ exitProgram.linkedNodes false :=
    Node.mem_linkedNodes_of_mem_marked List.mem_cons_self <|
      Node.mem_linkedNodes_of_mem_marked List.mem_cons_self <|
      Node.mem_linkedNodes_of_mem_marked List.mem_cons_self <|
      Node.self_mem_linkedNodes _ _
  have hwalk := exists_eq_ok_of_toBool (by decide +kernel :
    ((survey {} exitProgram).walk 0 false false exitProgram).toBool = true)
  obtain ⟨depth, rs, -, hsub, -, hhit, -⟩ :=
    memberChain_reports_once {} exitProgram processExit hT rfl hwalk
  have hsplit : processExit.chainLinks = [] ++ processExit :: [] := by
    rw [processExit, Node.chainLinks_memberExpression, Node.chainLinks_of_not_isChainLink rfl]
    rfl
  obtain ⟨hz, hlookup, hfilter⟩ := hhit [] processExit [] "process.exit" "process.exit" hsplit
    (by simp) (processExit_hits exitProgram (by decide +kernel))
  obtain rfl : hz = .process := Option.some.inj (hlookup.symm.trans (by decide +kernel))
  exact ⟨hT, rfl, hwalk, rs, hsub, hfilter⟩

/-- `process.exit(1); o[0xf…f];`, whose index has 3600 digits f.  The raw text of the index,
which no analysis reads, is written shortened. -/
def exitBeforeLongIndexProgram : Node :=
  .program (.onFirstLine 0 3623) [
    .expressionStatement (.onFirstLine 0 16) (.callExpression (.onFirstLine 0 15) processExit
      [.literal (.onFirstLine 13 14) (.int 1) "1" none none] false),
    .expressionStatement (.onFirstLine 17 3623)
      (.memberExpression (.onFirstLine 17 3622) (.identifier (.onFirstLine 17 18) "o")
        (.literal (.onFirstLine 19 3621) (.int ((16 ^ 3600 - 1 : Nat) : Int)) "0xf…f" none none)
        true false)] false

/-- A member chain that matches a forbidden path goes unreported when a later member has an
index too long to print: the analysis stops there and reports its fault alone. -/
theorem exitBeforeLongIndex_unreported :
    (processExit, false) ∈ exitBeforeLongIndexProgram.linkedNodes false ∧
      processExit.unwrapped.isMember = true ∧
      (survey {} exitBeforeLongIndexProgram).Hits processExit "process.exit" "process.exit" ∧
      analyzePurity {} exitBeforeLongIndexProgram = [failure .longInteger] := by
  -- the walk fails at the member of the second statement
  have hfail : ∀ vs, (survey {} exitBeforeLongIndexProgram).walk 0 false false
      exitBeforeLongIndexProgram ≠ .ok vs :=
    Survey.walk_ne_ok_of_child (List.mem_cons_of_mem _ List.mem_cons_self) <|
      Survey.walk_ne_ok_of_child List.mem_cons_self <|
      Survey.walk_ne_ok_of_inspect <| Survey.inspect_member_eq_error <|
      Node.memberPath?_eq_error (Node.segment?_eq_error Numeral.printable_longHex)
  have hT : (processExit, false) ∈ exitBeforeLongIndexProgram.linkedNodes false :=
    Node.mem_linkedNodes_of_mem_marked List.mem_cons_self <|
      Node.mem_linkedNodes_of_mem_marked List.mem_cons_self <|
      Node.mem_linkedNodes_of_mem_marked List.mem_cons_self <|
      Node.self_mem_linkedNodes _ _
  exact ⟨hT, rfl, processExit_hits _ (by decide +kernel), analyzePurity_eq_failure hfail⟩

end Purity

end ScriptGate
