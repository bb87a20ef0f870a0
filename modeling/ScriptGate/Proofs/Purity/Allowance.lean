import Mathlib.Data.List.Basic
import ScriptGate.Proofs.Purity.Walk

/-!
# Allowing more only removes breaches, with one exception

An allowance lets through forbidden global names and member paths.  Widening it
should only remove breaches from the analysis of a program, and it does as long
as no newly allowed forbidden path uncovers what stands before one of its dots
(`analyzePurity_wider_allowance_sublist`).

The exception comes from how a member chain is quieted.  A member that matches a
forbidden path is reported once, and the match quiets the links below it, so
that the free name at the root of the chain is not reported again.  A member
whose path is allowed is not reported, but it does not quiet its chain either:
under an allowance that lets `process.exit` through, the name `process` below it
is reported in its place (`exitAllowed_reports_process`).

The proof runs the walk under both allowances side by side (`walk_allowing`).
At a node walked with the same flags, the report under the wider allowance lies
inside the other (`inspect_allowing`); the flag that quiets a chain can be lifted
only at a member that the wider allowance *releases* (a forbidden path that it
alone lets through) or inside one, where neither walk finds anything
(`inspect_insideReleased`), because of `Allowance.CoversInside`.
-/

namespace ScriptGate

/-! ## Sets of patterns -/

namespace PatternSet

theorem mem_exact_ofList {ps : List String} {path : String} :
    path ∈ (ofList ps).exact ↔ path ∈ ps ∧ (MemberPattern.mk path).isWildcard = false := by
  simp [ofList]

theorem mem_wildcards_ofList {ps : List String} {w : MemberPattern} :
    w ∈ (ofList ps).wildcards ↔ w.text ∈ ps ∧ w.isWildcard = true := by
  cases w
  simp [ofList]

/-- A set of patterns lets a path through exactly when one of its patterns covers it. -/
theorem isSome_match?_ofList {ps : List String} {path : String} :
    ((ofList ps).match? path).isSome ↔ ∃ t ∈ ps, (MemberPattern.mk t).covers path = true := by
  unfold match?
  split
  case isTrue h =>
    have hmem := mem_exact_ofList.1 (List.contains_iff_mem.1 h)
    exact iff_of_true rfl ⟨path, hmem.1, by simp [MemberPattern.covers, hmem.2]⟩
  case isFalse h =>
    simp only [Option.isSome_map, List.find?_isSome]
    constructor
    · rintro ⟨w, hw, hc⟩
      exact ⟨w.text, (mem_wildcards_ofList.1 hw).1, hc⟩
    · rintro ⟨t, ht, hc⟩
      cases hwild : (MemberPattern.mk t).isWildcard
      · -- an exact pattern covers its own text only, and that text is among the exact ones
        have hpath : path = t := by simpa [MemberPattern.covers, hwild] using hc
        subst hpath
        exact absurd (List.contains_iff_mem.2 (mem_exact_ofList.2 ⟨ht, hwild⟩)) h
      · exact ⟨⟨t⟩, mem_wildcards_ofList.2 ⟨ht, hwild⟩, hc⟩

theorem isSome_match?_ofList_of_subset {ps qs : List String} (h : ps ⊆ qs) {path : String}
    (hp : ((ofList ps).match? path).isSome) : ((ofList qs).match? path).isSome := by
  obtain ⟨t, ht, hc⟩ := isSome_match?_ofList.1 hp
  exact isSome_match?_ofList.2 ⟨t, h ht, hc⟩

end PatternSet

/-! ## Member paths along a chain -/

namespace Node

@[simp] theorem memberPath?_chainExpression (sp : Span) (e : Node) :
    (chainExpression sp e).memberPath? = e.memberPath? := by
  simp only [memberPath?, pathParts, memberRoot]

@[simp] theorem root_chainExpression (sp : Span) (e : Node) : (chainExpression sp e).root = e.root := by
  simp only [root, memberRoot]

@[simp] theorem root_memberExpression (sp : Span) (o p : Node) (computed opt : Bool) :
    (memberExpression sp o p computed opt).root = o.root := by
  simp only [root, memberRoot]

/-- The path of a member runs on from the path of its object by one more segment. -/
theorem memberPath?_object {sp : Span} {o p : Node} {computed opt : Bool} {path : String}
    (h : (memberExpression sp o p computed opt).memberPath? = .ok (some path)) :
    ∃ q seg, (memberExpression sp o p computed opt).segment? = .ok (some seg) ∧
      o.memberPath? = .ok (some q) ∧ path = q ++ "." ++ seg := by
  simp only [memberPath?, pathParts, memberRoot] at h ⊢
  obtain ⟨parts?, hparts, h⟩ := except_bind_eq_ok.1 h
  obtain ⟨seg?, hseg, hparts⟩ := except_bind_eq_ok.1 hparts
  -- a link that names no segment leaves the chain without a path
  obtain ⟨seg, rfl⟩ : ∃ seg, seg? = some seg := by
    rcases seg? with _ | seg
    · obtain rfl := (except_pure_eq_ok.1 hparts).symm
      simp [pure, Except.pure] at h
    · exact ⟨seg, rfl⟩
  obtain ⟨oparts?, hoparts, hparts⟩ := except_bind_eq_ok.1 hparts
  obtain rfl := except_pure_eq_ok.1 hparts
  rw [hoparts]
  rcases oparts? with _ | parts
  · simp [pure, Except.pure] at h
  cases hroot : o.memberRoot
  case identifier span name =>
    rw [hroot] at h
    refine ⟨".".intercalate (name :: parts.reverse), seg, hseg, rfl, ?_⟩
    have h : ".".intercalate (name :: (seg :: parts).reverse) = path := by
      simpa [pure, Except.pure, bind, Except.bind] using h
    rw [← h, List.reverse_cons, ← List.cons_append,
      String.intercalate_append_of_ne_nil (List.cons_ne_nil _ _) (List.cons_ne_nil _ _),
      String.intercalate_singleton]
  all_goals
    rw [hroot] at h
    simp [pure, Except.pure] at h

end Node

namespace Purity

/-! ## Allowances -/

namespace Allowance

/-- Whether an allowance lets a member path through. -/
def allows (a : Allowance) (path : String) : Bool := (a.members.match? path).isSome

/-- Whether `a'` lets through a forbidden path that `a` does not. -/
def releases (a a' : Allowance) (path : String) : Bool :=
  (forbiddenSet.match? path).isSome && a'.allows path && !a.allows path

/-- What `a'` lets through beyond `a` uncovers nothing: before each dot of a forbidden path
that it newly lets through stands a name or a path that is either not forbidden or let
through by `a'` as well. -/
def CoversInside (a a' : Allowance) : Prop :=
  ∀ p q r, a.releases a' p = true → p = q ++ "." ++ r →
    ((forbiddenNames.lookup q).isSome → a'.names.contains q = true) ∧
    ((forbiddenSet.match? q).isSome → a'.allows q = true)

/-- `a'` lets through every name and path that `a` does, and uncovers nothing. -/
structure Widens (a a' : Allowance) : Prop where
  names : a.names ⊆ a'.names
  allows : ∀ path, a.allows path = true → a'.allows path = true
  inside : a.CoversInside a'

end Allowance

/-! ## Comparing two runs -/

/-- `x'` stays within `x`: when `x` gives a value, `x'` gives one related to it by `r`, and
when `x` stops at a fault, `x'` stops at the same fault. -/
def Within {ε α β : Type} (r : α → β → Prop) (x' : Except ε α) (x : Except ε β) : Prop :=
  match x with
  | .ok b => ∃ a, x' = .ok a ∧ r a b
  | .error e => x' = .error e

namespace Within

variable {ε α β γ δ : Type}

theorem refl {r : α → α → Prop} (hr : ∀ a, r a a) (x : Except ε α) : Within r x x := by
  cases x with
  | error e => rfl
  | ok a => exact ⟨a, rfl, hr a⟩

theorem of_ok {r : α → β → Prop} {a : α} {b : β} (h : r a b) :
    Within r (.ok a : Except ε α) (.ok b) := ⟨a, rfl, h⟩

theorem bind {r : α → β → Prop} {r₂ : γ → δ → Prop} {x' : Except ε α} {x : Except ε β}
    {f' : α → Except ε γ} {f : β → Except ε δ} (h : Within r x' x)
    (hf : ∀ a b, r a b → Within r₂ (f' a) (f b)) : Within r₂ (x' >>= f') (x >>= f) := by
  cases x with
  | error e =>
    change x' = .error e at h
    subst h
    rfl
  | ok b =>
    obtain ⟨a, rfl, hab⟩ := h
    exact hf a b hab

theorem mapM {r : α → β → Prop} {xs : List γ} {f' : γ → Except ε α} {f : γ → Except ε β}
    (h : ∀ c ∈ xs, Within r (f' c) (f c)) : Within (List.Forall₂ r) (xs.mapM f') (xs.mapM f) := by
  induction xs with
  | nil => exact of_ok .nil
  | cons c cs ih =>
    rw [List.mapM_cons, List.mapM_cons]
    refine bind (h c List.mem_cons_self) fun a b hab => ?_
    refine bind (ih fun c hc => h c (List.mem_cons_of_mem _ hc)) fun as bs habs => ?_
    exact of_ok (.cons hab habs)

theorem imp {r r₂ : α → β → Prop} {x' : Except ε α} {x : Except ε β} (h : Within r x' x)
    (himp : ∀ a b, r a b → r₂ a b) : Within r₂ x' x := by
  cases x with
  | error e => exact h
  | ok b =>
    obtain ⟨a, rfl, hab⟩ := h
    exact ⟨a, rfl, himp a b hab⟩

end Within

theorem flatten_sublist_of_forall₂ {α : Type} :
    ∀ {ls' ls : List (List α)}, List.Forall₂ List.Sublist ls' ls → ls'.flatten.Sublist ls.flatten
  | [], [], .nil => .slnil
  | _ :: _, _ :: _, .cons h hs => by
    rw [List.flatten_cons, List.flatten_cons]
    exact h.append (flatten_sublist_of_forall₂ hs)

/-- A link of a chain is the object of a member or the link under an optional chain. -/
theorem link_of_mem_marked {n c : Node} {spelled : Bool} (h : (c, true, spelled) ∈ marked n) :
    (∃ sp p computed opt, n = .memberExpression sp c p computed opt) ∨
      ∃ sp, n = .chainExpression sp c := by
  obtain ⟨⟨⟨c', s'⟩, i⟩, hm, he⟩ := List.mem_map.1 h
  simp only [Prod.mk.injEq, Bool.and_eq_true, beq_iff_eq] at he
  obtain ⟨rfl, ⟨hlinks, rfl⟩, rfl⟩ := he
  -- only the first child of a member or of an optional chain is a link
  have hfirst := List.mk_mem_zipIdx_iff_getElem?.1 hm
  cases n
  case memberExpression sp o p computed opt =>
    simp only [Node.spelledChildren, List.getElem?_cons_zero, Option.some.injEq,
      Prod.mk.injEq] at hfirst
    exact .inl ⟨sp, p, computed, opt, by rw [hfirst.1]⟩
  case chainExpression sp e =>
    simp only [Node.spelledChildren, Node.children, List.map_cons, List.map_nil,
      List.getElem?_cons_zero, Option.some.injEq, Prod.mk.injEq] at hfirst
    exact .inr ⟨sp, by rw [hfirst.1]⟩
  all_goals simp at hlinks

/-! ## The checks under a wider allowance -/

namespace Survey

/-- The survey with another allowance; what the walk knows of the program stays. -/
def allowing (s : Survey) (a : Allowance) : Survey := { s with allowance := a }

/-- A member that the survey's allowance reports and `a'` lets through: its path is forbidden
and let through by `a'` alone, and its root is not declared by the program. -/
def Released (s : Survey) (a' : Allowance) (n : Node) : Prop :=
  n.isMember = true ∧
    ∃ p, n.memberPath? = .ok (some p) ∧ s.allowance.releases a' p = true ∧ s.hasBoundRoot n = false

/-- How the report of a node under `a'` stands to its report under the survey's allowance:
inside it, and quieting the rest of the chain alike, unless the node is a released member. -/
def ReportWithin (s : Survey) (a' : Allowance) (n : Node) (x' x : List Violation × Bool) : Prop :=
  x'.1.Sublist x.1 ∧ (x'.2 = x.2 ∨ (x.2 = true ∧ x'.2 = false ∧ s.Released a' n))

variable {s : Survey} {a' : Allowance}

@[simp] theorem allowance_allowing : (s.allowing a').allowance = a' := rfl

@[simp] theorem referenceOf_allowing : (s.allowing a').referenceOf = s.referenceOf := rfl

@[simp] theorem hasBoundRoot_allowing : (s.allowing a').hasBoundRoot = s.hasBoundRoot := rfl

@[simp] theorem isLocal_allowing : (s.allowing a').isLocal = s.isLocal := rfl

@[simp] theorem hasBoundRoot_memberExpression (sp : Span) (o p : Node) (computed opt : Bool) :
    s.hasBoundRoot (.memberExpression sp o p computed opt) = s.hasBoundRoot o := by
  simp only [hasBoundRoot, Node.root_memberExpression]

@[simp] theorem hasBoundRoot_chainExpression (sp : Span) (e : Node) :
    s.hasBoundRoot (.chainExpression sp e) = s.hasBoundRoot e := by
  simp only [hasBoundRoot, Node.root_chainExpression]

theorem freeName_allowing (h : s.allowance.names ⊆ a'.names) (n : Node) :
    ((s.allowing a').freeName n).Sublist (s.freeName n) := by
  cases n
  case identifier sp name =>
    unfold freeName
    rw [referenceOf_allowing, allowance_allowing]
    cases s.referenceOf (.identifier sp name) with
    | none => exact .slnil
    | some r =>
      dsimp only
      by_cases hwide : (r.binding.isSome || a'.names.contains name) = true
      · rw [if_pos hwide]
        exact List.nil_sublist _
      · -- a name the narrow allowance lets through, the wide one lets through too
        have hnarrow : ¬(r.binding.isSome || s.allowance.names.contains name) = true := by
          simp only [Bool.or_eq_true, not_or, List.contains_iff_mem] at hwide ⊢
          exact ⟨hwide.1, fun hn => hwide.2 (h hn)⟩
        rw [if_neg hwide, if_neg hnarrow]
  all_goals exact .slnil

/-- The report of a member with a path: nothing if its root is declared or its path is not
forbidden or is let through; else the forbidden pattern it matches, which quiets its chain. -/
theorem forbiddenMember_of_memberPath? {n : Node} {path : String}
    (h : n.memberPath? = .ok (some path)) :
    s.forbiddenMember n = .ok (if s.hasBoundRoot n then ([], false)
      else match forbiddenSet.match? path with
        | none => ([], false)
        | some matched =>
          if s.allowance.allows path then ([], false)
          else match forbiddenMembers.lookup matched with
            | some hz => ([⟨hz.kind, matched, hz.describe path, some n.span⟩], true)
            | none => ([], false)) := by
  simp only [forbiddenMember, h, Allowance.allows]
  rfl

theorem forbiddenMember_allowing (hallows : ∀ p, s.allowance.allows p = true → a'.allows p = true)
    {n : Node} (hn : n.isMember = true) :
    Within (s.ReportWithin a' n) ((s.allowing a').forbiddenMember n) (s.forbiddenMember n) := by
  cases hpath : n.memberPath? with
  | error f => simp [forbiddenMember, hpath, Within, bind, Except.bind]
  | ok path? =>
    rcases path? with _ | path
    · simp [forbiddenMember, hpath, Within, bind, Except.bind, pure, Except.pure, ReportWithin]
    rw [forbiddenMember_of_memberPath? hpath, forbiddenMember_of_memberPath? hpath]
    refine Within.of_ok ?_
    rw [hasBoundRoot_allowing, allowance_allowing]
    cases hb : s.hasBoundRoot n
    case true => exact ⟨.slnil, .inl rfl⟩
    case false =>
      cases hf : forbiddenSet.match? path with
      | none => exact ⟨.slnil, .inl rfl⟩
      | some matched =>
        cases hwide : a'.allows path
        case false =>
          -- what the wide allowance reports, the narrow one reports alike
          have hnarrow : s.allowance.allows path = false := by
            cases h : s.allowance.allows path
            · rfl
            · exact absurd (hallows _ h) (by simp [hwide])
          simp only [hnarrow]
          exact ⟨.refl _, .inl rfl⟩
        case true =>
          -- the wide allowance lets the member through; the narrow one, when it reports it,
          -- releases it to the wide one
          refine ⟨List.nil_sublist _, ?_⟩
          cases hnarrow : s.allowance.allows path
          case true => exact .inl rfl
          case false =>
            cases hlookup : forbiddenMembers.lookup matched
            case none => simp [hlookup]
            case some hz =>
              simp only [hlookup]
              refine .inr ⟨rfl, rfl, hn, path, hpath, ?_, hb⟩
              simp [Allowance.releases, hf, hwide, hnarrow]

theorem mutatingCall_allowing (hallows : ∀ p, s.allowance.allows p = true → a'.allows p = true)
    (n : Node) : Within List.Sublist ((s.allowing a').mutatingCall n) (s.mutatingCall n) := by
  cases n
  case callExpression sp callee args opt =>
    cases hu : callee.unwrapped
    case memberExpression csp obj prop computed copt =>
      cases hpath : (Node.memberExpression csp obj prop computed copt).memberPath? with
      | error f => simp [mutatingCall, hu, hpath, Within, bind, Except.bind]
      | ok path? =>
        rcases path? with _ | path
        · -- without a path only the method is judged, alike under both
          cases hseg : (Node.memberExpression csp obj prop computed copt).segment? with
          | error f => simp [mutatingCall, hu, hpath, hseg, Within, bind, Except.bind]
          | ok seg? =>
            simp only [mutatingCall, hu, hpath, hseg, bind, Except.bind, pure, Except.pure,
              isLocal_allowing]
            exact Within.refl List.Sublist.refl _
        · obtain ⟨q, seg, hseg, -, -⟩ := Node.memberPath?_object hpath
          have hwide : (a'.members.match? path).isSome = a'.allows path := rfl
          have hnarrow : (s.allowance.members.match? path).isSome = s.allowance.allows path := rfl
          simp only [mutatingCall, hu, hpath, hseg, bind, Except.bind, pure, Except.pure,
            hasBoundRoot_allowing, isLocal_allowing, allowance_allowing, hwide, hnarrow]
          -- the path's verdict is the same under both, unless only the wide allowance lets it
          -- through, which leaves the call unreported
          cases hb : s.hasBoundRoot (Node.memberExpression csp obj prop computed copt)
          case true => exact Within.refl List.Sublist.refl _
          case false =>
            cases hpure : pureObjectCalls.contains path
            case true => exact Within.refl List.Sublist.refl _
            case false =>
              cases hw : a'.allows path
              case false =>
                have hn : s.allowance.allows path = false := by
                  cases h : s.allowance.allows path
                  · rfl
                  · exact absurd (hallows _ h) (by simp [hw])
                simp only [hn]
                exact Within.refl List.Sublist.refl _
              case true =>
                simp only [Bool.false_eq_true, ↓reduceIte, Bool.false_or, Bool.or_true]
                split
                all_goals exact Within.of_ok (List.nil_sublist _)
    all_goals simp [mutatingCall, hu, Within, pure, Except.pure]
  all_goals exact Within.refl List.Sublist.refl _

theorem reportWithin_refl (n : Node) (x : List Violation × Bool) : s.ReportWithin a' n x x :=
  ⟨.refl _, .inl rfl⟩

/-- A node inspected with the same flags reports under the wider allowance inside what it
reports under the narrower one. -/
theorem inspect_allowing (hw : s.allowance.Widens a') (depth : Nat) (quiet spelled : Bool)
    (n : Node) :
    Within (s.ReportWithin a' n) ((s.allowing a').inspect depth quiet spelled n)
      (s.inspect depth quiet spelled n) := by
  cases n
  case identifier sp name =>
    cases hq : (quiet || spelled)
    · simp only [inspect, hq]
      exact Within.of_ok ⟨freeName_allowing hw.names _, .inl rfl⟩
    · simp only [inspect, hq]
      exact Within.refl (reportWithin_refl _) _
  case memberExpression sp o p computed opt =>
    cases quiet
    · exact forbiddenMember_allowing hw.allows rfl
    · exact Within.refl (reportWithin_refl _) _
  case callExpression sp callee args opt =>
    exact Within.bind (mutatingCall_allowing hw.allows _) fun vs' vs h =>
      Within.of_ok ⟨h, .inl rfl⟩
  all_goals exact Within.refl (reportWithin_refl _) _

/-- A link inside a released member: it spells a path before one of the dots of the released
path, from the same undeclared root. -/
def InsideReleased (s : Survey) (a' : Allowance) (n : Node) : Prop :=
  ∃ p q r, s.allowance.releases a' p = true ∧ n.memberPath? = .ok (some q) ∧ p = q ++ "." ++ r ∧
    s.hasBoundRoot n = false

/-- Inside a released member the narrow walk is quiet and the wide walk, no longer quiet,
finds nothing either: what stands there is not forbidden or is let through. -/
theorem inspect_insideReleased (hw : s.allowance.CoversInside a') {n : Node}
    (h : s.InsideReleased a' n) (depth : Nat) (spelled : Bool) :
    s.inspect depth true spelled n = .ok ([], false) ∧
      (s.allowing a').inspect depth false spelled n = .ok ([], false) := by
  obtain ⟨p, q, r, hrel, hpath, rfl, hbound⟩ := h
  have hcover := hw _ q r hrel rfl
  cases n
  case identifier sp name =>
    have hq : name = q := by
      simpa [Node.memberPath?, Node.pathParts, Node.memberRoot, bind, Except.bind, pure,
        Except.pure] using hpath
    subst hq
    refine ⟨rfl, ?_⟩
    -- the root is a name that the wide allowance lets through, if it is forbidden at all
    have hfree : (s.allowing a').freeName (.identifier sp name) = [] := by
      unfold freeName
      rw [referenceOf_allowing, allowance_allowing]
      cases s.referenceOf (.identifier sp name) with
      | none => rfl
      | some ref =>
        dsimp only
        cases hlookup : forbiddenNames.lookup name with
        | none => split <;> rfl
        | some hz =>
          have hallowed : a'.names.contains name = true := hcover.1 (by simp [hlookup])
          simp only [hallowed, Bool.or_true, ↓reduceIte]
    simp [inspect, hfree, pure, Except.pure]
  case memberExpression sp o prop computed opt =>
    refine ⟨rfl, ?_⟩
    -- the member's own path is not forbidden or is let through by the wide allowance
    show (s.allowing a').forbiddenMember _ = _
    rw [forbiddenMember_of_memberPath? hpath]
    simp only [hasBoundRoot_allowing, hbound, Bool.false_eq_true, ↓reduceIte]
    cases hf : forbiddenSet.match? q with
    | none => rfl
    | some m =>
      have hallowed : a'.allows q = true := hcover.2 (by simp [hf])
      simp [hallowed]
  case chainExpression sp e => exact ⟨rfl, rfl⟩
  all_goals simp [Node.memberPath?, Node.pathParts, Node.memberRoot, bind, Except.bind, pure,
    Except.pure] at hpath

/-- The link below a node inside a released member is inside it as well. -/
theorem InsideReleased.link {n c : Node} {spelled : Bool} (h : s.InsideReleased a' n)
    (hm : (c, true, spelled) ∈ marked n) : s.InsideReleased a' c := by
  obtain ⟨p, q, r, hrel, hpath, rfl, hbound⟩ := h
  rcases link_of_mem_marked hm with ⟨sp, prop, computed, opt, rfl⟩ | ⟨sp, rfl⟩
  · obtain ⟨q', seg, -, hq', rfl⟩ := Node.memberPath?_object hpath
    refine ⟨_, q', seg ++ "." ++ r, hrel, hq', by simp only [String.append_assoc], ?_⟩
    simpa using hbound
  · exact ⟨_, q, r, hrel, by simpa using hpath, rfl, by simpa using hbound⟩

/-- The object of a released member is inside it. -/
theorem Released.link {n c : Node} {spelled : Bool} (h : s.Released a' n)
    (hm : (c, true, spelled) ∈ marked n) : s.InsideReleased a' c := by
  obtain ⟨hn, p, hpath, hrel, hbound⟩ := h
  rcases link_of_mem_marked hm with ⟨sp, prop, computed, opt, rfl⟩ | ⟨sp, rfl⟩
  · obtain ⟨q, seg, -, hq, rfl⟩ := Node.memberPath?_object hpath
    exact ⟨_, q, seg, hrel, hq, rfl, by simpa using hbound⟩
  · simp [Node.isMember] at hn

/-- How the quiet flag a node is walked with under `a'` stands to the one under the survey's
allowance: the same, or lifted only inside a released member. -/
def QuietWithin (s : Survey) (a' : Allowance) (n : Node) (quiet' quiet : Bool) : Prop :=
  quiet' = quiet ∨ (quiet = true ∧ quiet' = false ∧ s.InsideReleased a' n)

/-- How the flag that quiets a node's chain below it stands under both allowances: the same,
or lifted only at or inside a released member. -/
def ChainWithin (s : Survey) (a' : Allowance) (n : Node) (quiet' quiet : Bool) : Prop :=
  quiet' = quiet ∨ (quiet = true ∧ quiet' = false ∧ (s.InsideReleased a' n ∨ s.Released a' n))

theorem quietWithin_link {n c : Node} {quiet' quiet link spelled : Bool}
    (h : s.ChainWithin a' n quiet' quiet) (hm : (c, link, spelled) ∈ marked n) :
    s.QuietWithin a' c (quiet' && link) (quiet && link) := by
  rcases h with rfl | ⟨rfl, rfl, hr⟩
  · exact .inl rfl
  cases link
  case false => exact .inl rfl
  case true =>
    refine .inr ⟨rfl, rfl, ?_⟩
    rcases hr with hr | hr
    · exact hr.link hm
    · exact hr.link hm

/-- One node under both allowances: its report under `a'` lies inside the other, and the flag
it hands its chain is lifted only at or inside a released member. -/
theorem inspect_quietWithin (hw : s.allowance.Widens a') {n : Node} {quiet' quiet : Bool}
    (hq : s.QuietWithin a' n quiet' quiet) (depth : Nat) (spelled : Bool) :
    Within (fun x' x => x'.1.Sublist x.1 ∧ s.ChainWithin a' n (quiet' || x'.2) (quiet || x.2))
      ((s.allowing a').inspect depth quiet' spelled n) (s.inspect depth quiet spelled n) := by
  rcases hq with rfl | ⟨rfl, rfl, hr⟩
  · refine (inspect_allowing hw depth quiet' spelled n).imp ?_
    rintro x' x ⟨hsub, hm | ⟨hm, hm', hrel⟩⟩
    · exact ⟨hsub, .inl (by rw [hm])⟩
    · refine ⟨hsub, ?_⟩
      rw [hm, hm']
      cases quiet'
      · exact .inr ⟨rfl, rfl, .inr hrel⟩
      · exact .inl rfl
  · obtain ⟨hnarrow, hwide⟩ := inspect_insideReleased hw.inside hr depth spelled
    rw [hnarrow, hwide]
    exact Within.of_ok ⟨.slnil, .inr ⟨rfl, rfl, .inl hr⟩⟩

/-- The walk under a wider allowance finds a subsequence of what it finds under the survey's
own, and stops at the same fault; by induction over the tree, each node related by
inspect_quietWithin and each link handed its flag by quietWithin_link. -/
theorem walk_allowing (hw : s.allowance.Widens a') (n : Node) (depth : Nat) {quiet' quiet : Bool}
    (spelled : Bool) (hq : s.QuietWithin a' n quiet' quiet) :
    Within List.Sublist ((s.allowing a').walk depth quiet' spelled n)
      (s.walk depth quiet spelled n) := by
  rw [walk.eq_def (s.allowing a') depth quiet' spelled n, walk.eq_def s depth quiet spelled n]
  refine Within.bind (inspect_quietWithin hw hq depth spelled) ?_
  rintro ⟨own', m'⟩ ⟨own, m⟩ ⟨hown, hchain⟩
  refine Within.bind (Within.mapM ?_) fun found' found hfound =>
    Within.of_ok (hown.append (flatten_sublist_of_forall₂ hfound))
  rintro ⟨⟨c, link, name⟩, hm⟩ -
  exact walk_allowing hw c _ name (quietWithin_link hchain hm)
termination_by sizeOf n
decreasing_by exact Node.sizeOf_lt_of_mem_children (mem_children_of_mem_marked hm)

end Survey

/-- A path is forbidden exactly when one of the forbidden patterns covers it. -/
theorem isSome_match?_forbiddenSet {path : String} :
    (forbiddenSet.match? path).isSome ↔
      ∃ t ∈ forbiddenMembers.map (·.1), (MemberPattern.mk t).covers path = true :=
  PatternSet.isSome_match?_ofList

end Purity

/-! ## The analysis under a wider allowance -/

/-- The breaches of a program under an allowance that widens another are a subsequence of
those under the other, and a fault stops both alike. -/
theorem analyzePurity_sublist_of_widens {a a' : Purity.Allowance} (hw : a.Widens a') (P : Node) :
    (analyzePurity a' P).Sublist (analyzePurity a P) := by
  have hsurvey : Purity.survey a' P = (Purity.survey a P).allowing a' := rfl
  have hwalk : Purity.Within List.Sublist (((Purity.survey a P).allowing a').walk 0 false false P)
      ((Purity.survey a P).walk 0 false false P) :=
    (Purity.survey a P).walk_allowing hw P 0 false (.inl rfl)
  unfold analyzePurity
  rw [hsurvey]
  cases h : (Purity.survey a P).walk 0 false false P with
  | error f =>
    rw [h] at hwalk
    rw [show ((Purity.survey a P).allowing a').walk 0 false false P = .error f from hwalk]
  | ok vs =>
    rw [h] at hwalk
    obtain ⟨vs', hvs', hsub⟩ := hwalk
    rw [hvs']
    exact hsub

/-- Allowing more names and more member patterns only removes breaches, as long as a newly
allowed forbidden path uncovers nothing before its dots: whatever name or path stands there is
not forbidden, or is allowed as well. -/
theorem analyzePurity_wider_allowance_sublist {names names' members members' : List String}
    (hnames : names ⊆ names') (hmembers : members ⊆ members')
    (hinside : Purity.Allowance.CoversInside ⟨names, .ofList members⟩ ⟨names', .ofList members'⟩)
    (P : Node) :
    (analyzePurity ⟨names', .ofList members'⟩ P).Sublist
      (analyzePurity ⟨names, .ofList members⟩ P) := by
  refine analyzePurity_sublist_of_widens ⟨hnames, fun path h => ?_, hinside⟩ P
  exact PatternSet.isSome_match?_ofList_of_subset hmembers h

/-- A path with no dot before and after one dot splits at a dot in that one way only. -/
theorem eq_of_append_dot_eq {q r q₀ r₀ : String} (h : q ++ "." ++ r = q₀ ++ "." ++ r₀)
    (hq₀ : '.' ∉ q₀.toList) (hr₀ : '.' ∉ r₀.toList) : q = q₀ := by
  have hl : q.toList ++ '.' :: r.toList = q₀.toList ++ '.' :: r₀.toList := by
    simpa using congrArg String.toList h
  -- the one dot on the right is the one after q, so neither q nor r has one
  have hcount := congrArg (List.count '.') hl
  simp only [List.count_append, List.count_cons_self, List.count_eq_zero_of_not_mem hq₀,
    List.count_eq_zero_of_not_mem hr₀] at hcount
  have hq : '.' ∉ q.toList := List.count_eq_zero.1 (by omega)
  have hr : '.' ∉ r.toList := List.count_eq_zero.1 (by omega)
  exact String.toList_inj.1 ((List.append_cons_inj_of_notMem hq hr).1 hl).1

/-- Allowing Date and console.log uncovers nothing: before the one dot of console.log stands
console, which is neither a forbidden name nor a forbidden path. -/
theorem coversInside_consoleLog :
    Purity.Allowance.CoversInside ⟨[], .ofList []⟩ ⟨["Date"], .ofList ["console.log"]⟩ := by
  intro p q r hrel hp
  have hallows : Purity.Allowance.allows ⟨["Date"], .ofList ["console.log"]⟩ p = true := by
    simp only [Purity.Allowance.releases, Bool.and_eq_true] at hrel
    exact hrel.1.2
  obtain ⟨t, ht, hcovers⟩ := PatternSet.isSome_match?_ofList.1 hallows
  rw [List.mem_singleton] at ht
  subst ht
  have hp' : p = "console.log" := by
    have hexact : (MemberPattern.mk "console.log").isWildcard = false := by decide +kernel
    simpa [MemberPattern.covers, hexact] using hcovers
  subst hp'
  have hsplit : "console.log" = "console" ++ "." ++ "log" := rfl
  have hq : q = "console" :=
    eq_of_append_dot_eq (hp.symm.trans hsplit) (by decide +kernel) (by decide +kernel)
  subst hq
  refine ⟨fun h => absurd h (by decide +kernel), fun h => absurd h ?_⟩
  rw [Purity.isSome_match?_forbiddenSet]
  simp only [not_exists, not_and, Bool.not_eq_true]
  decide +kernel

/-- console.log(Date.now()); -/
def dateLogProgram : Node :=
  .program (.onFirstLine 0 24) [.expressionStatement (.onFirstLine 0 24)
    (.callExpression (.onFirstLine 0 23)
      (.memberExpression (.onFirstLine 0 11) (.identifier (.onFirstLine 0 7) "console")
        (.identifier (.onFirstLine 8 11) "log") false false)
      [.callExpression (.onFirstLine 12 22)
        (.memberExpression (.onFirstLine 12 20) (.identifier (.onFirstLine 12 16) "Date")
          (.identifier (.onFirstLine 17 20) "now") false false) [] false] false)] false

theorem dateLog_wider_allowance_sublist :
    (analyzePurity ⟨["Date"], .ofList ["console.log"]⟩ dateLogProgram).Sublist
      (analyzePurity ⟨[], .ofList []⟩ dateLogProgram) :=
  analyzePurity_wider_allowance_sublist (List.nil_subset _) (List.nil_subset _)
    coversInside_consoleLog dateLogProgram

/-- process.exit(1); -/
def exitProgram : Node :=
  .program (.onFirstLine 0 16) [.expressionStatement (.onFirstLine 0 16)
    (.callExpression (.onFirstLine 0 15)
      (.memberExpression (.onFirstLine 0 12) (.identifier (.onFirstLine 0 7) "process")
        (.identifier (.onFirstLine 8 12) "exit") false false)
      [.literal (.onFirstLine 13 14) (.int 1) "1" none none] false)] false

/-- Allowing process.exit turns its one breach into another: the call is let through, the
member no longer quiets its chain, and the free name process below it is reported. -/
theorem exitAllowed_reports_process :
    (analyzePurity ⟨[], .ofList []⟩ exitProgram).map (·.pattern) = ["process.exit"] ∧
      (analyzePurity ⟨[], .ofList ["process.exit"]⟩ exitProgram).map (·.pattern) = ["process"] ∧
      ¬(analyzePurity ⟨[], .ofList ["process.exit"]⟩ exitProgram).Sublist
        (analyzePurity ⟨[], .ofList []⟩ exitProgram) := by
  have hnarrow : (analyzePurity ⟨[], .ofList []⟩ exitProgram).map (·.pattern) =
      ["process.exit"] := by decide +kernel
  have hwide : (analyzePurity ⟨[], .ofList ["process.exit"]⟩ exitProgram).map (·.pattern) =
      ["process"] := by decide +kernel
  refine ⟨hnarrow, hwide, fun h => ?_⟩
  have hmap := h.map (·.pattern)
  rw [hnarrow, hwide] at hmap
  exact absurd hmap (by decide)

end ScriptGate
