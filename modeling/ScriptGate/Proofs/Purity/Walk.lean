import Mathlib.Data.List.Forall2
import ScriptGate.Purity.Analysis
import ScriptGate.Proofs.Pattern

/-!
# The purity walk, node by node

The walk visits a tree in pre-order and reports, at each node, what that node
breaches by itself; the analysis of a program is the concatenation of those
reports.  This module makes that reading exact.

`Node.nodesAt` lists the nodes of a tree in pre-order together with the number
of functions around each, which is the depth the walk carries.  When the walk
succeeds, every listed node was inspected at its depth and its report stands,
whole and in place, in the walk's findings (`report_infix_of_mem_nodesAt`); and
every finding was reported at one of the listed nodes (`exists_report_of_mem`).  In
fact the findings are the reports of the listed nodes, one for one and in their order
(`walk_reports`).

The depth is passed down, never kept: a node is inspected at the number of functions
among its ancestors (`Node.nodesAt_eq_withAncestors`), whatever was walked before it.
-/

namespace ScriptGate

/-! ## Steps of the `Except` monad -/

theorem except_bind_eq_ok {ε α β : Type} {x : Except ε α} {f : α → Except ε β} {b : β} :
    x >>= f = .ok b ↔ ∃ a, x = .ok a ∧ f a = .ok b := by
  cases x <;> simp [bind, Except.bind]

theorem except_pure_eq_ok {ε α : Type} {a b : α} : (pure a : Except ε α) = .ok b ↔ a = b := by
  simp [pure, Except.pure]

theorem exists_eq_ok_of_toBool {ε α : Type} {x : Except ε α} (h : x.toBool = true) :
    ∃ a, x = .ok a := by
  cases x with
  | error e => simp [Except.toBool] at h
  | ok a => exact ⟨a, rfl⟩

/-- Every input of a successful `mapM` has its output among the results. -/
theorem exists_of_mapM_eq_ok {ε α β : Type} {f : α → Except ε β} :
    ∀ {xs : List α} {ys : List β}, xs.mapM f = .ok ys → ∀ x ∈ xs, ∃ y ∈ ys, f x = .ok y
  | [], _, _, x, hx => absurd hx List.not_mem_nil
  | x :: xs, ys, h, z, hz => by
    rw [List.mapM_cons] at h
    obtain ⟨y, hy, h⟩ := except_bind_eq_ok.1 h
    obtain ⟨ys', hys', h⟩ := except_bind_eq_ok.1 h
    obtain rfl := except_pure_eq_ok.1 h
    rcases List.mem_cons.1 hz with rfl | hz
    · exact ⟨y, List.mem_cons_self, hy⟩
    · obtain ⟨w, hw, hfw⟩ := exists_of_mapM_eq_ok hys' z hz
      exact ⟨w, List.mem_cons_of_mem _ hw, hfw⟩

/-- A successful `mapM` gives one result for each input, in order. -/
theorem forall₂_of_mapM_eq_ok {ε α β : Type} {f : α → Except ε β} :
    ∀ {xs : List α} {ys : List β}, xs.mapM f = .ok ys → List.Forall₂ (fun x y => f x = .ok y) xs ys
  | [], ys, h => by
    rw [List.mapM_nil, except_pure_eq_ok] at h
    subst h
    exact .nil
  | x :: xs, ys, h => by
    rw [List.mapM_cons] at h
    obtain ⟨y, hy, h⟩ := except_bind_eq_ok.1 h
    obtain ⟨ys', hys', h⟩ := except_bind_eq_ok.1 h
    obtain rfl := except_pure_eq_ok.1 h
    exact .cons hy (forall₂_of_mapM_eq_ok hys')

/-- Lists of results, each the join of pieces related one for one to the parts of an input,
join into the pieces of all the inputs' parts. -/
theorem exists_forall₂_flatMap {α β γ : Type} {R : β → List γ → Prop} {f : α → List β} :
    ∀ {xs : List α} {ws : List (List γ)},
      List.Forall₂ (fun x w => ∃ rs, List.Forall₂ R (f x) rs ∧ w = rs.flatten) xs ws →
      ∃ rs, List.Forall₂ R (xs.flatMap f) rs ∧ ws.flatten = rs.flatten
  | [], [], .nil => ⟨[], .nil, rfl⟩
  | _ :: _, _ :: _, .cons ⟨rs, hrs, hw⟩ h => by
    obtain ⟨rs', hrs', hws⟩ := exists_forall₂_flatMap h
    refine ⟨rs ++ rs', ?_, ?_⟩
    · rw [List.flatMap_cons]
      exact List.rel_append hrs hrs'
    · rw [List.flatten_cons, List.flatten_append, hw, hws]

/-- Every result of a successful `mapM` is the output of one of its inputs. -/
theorem exists_of_mem_mapM_eq_ok {ε α β : Type} {f : α → Except ε β} :
    ∀ {xs : List α} {ys : List β}, xs.mapM f = .ok ys → ∀ y ∈ ys, ∃ x ∈ xs, f x = .ok y
  | [], ys, h, y, hy => by
    rw [List.mapM_nil, except_pure_eq_ok] at h
    subst h
    exact absurd hy List.not_mem_nil
  | x :: xs, ys, h, z, hz => by
    rw [List.mapM_cons] at h
    obtain ⟨y, hy, h⟩ := except_bind_eq_ok.1 h
    obtain ⟨ys', hys', h⟩ := except_bind_eq_ok.1 h
    obtain rfl := except_pure_eq_ok.1 h
    rcases List.mem_cons.1 hz with rfl | hz
    · exact ⟨x, List.mem_cons_self, hy⟩
    · obtain ⟨w, hw, hfw⟩ := exists_of_mem_mapM_eq_ok hys' z hz
      exact ⟨w, List.mem_cons_of_mem _ hw, hfw⟩

namespace Node

/-! ## Nodes with the functions around them -/

/-- The number of functions around the children of a node that has `depth` around it. -/
def innerDepth (n : Node) (depth : Nat) : Nat := if n.isFunction then depth + 1 else depth

/-- The nodes of a tree in pre-order, each with the number of functions around it,
the root having `depth` around it. -/
def nodesAt (depth : Nat) (n : Node) : List (Node × Nat) :=
  (n, depth) :: n.children.attach.flatMap fun ⟨c, _⟩ => c.nodesAt (n.innerDepth depth)
termination_by sizeOf n
decreasing_by exact sizeOf_lt_of_mem_children ‹_›

theorem mem_nodesAt {depth : Nat} {n A : Node} {dA : Nat} :
    (A, dA) ∈ n.nodesAt depth ↔
      (A = n ∧ dA = depth) ∨ ∃ c ∈ n.children, (A, dA) ∈ c.nodesAt (n.innerDepth depth) := by
  rw [nodesAt]
  simp only [List.mem_cons, Prod.mk.injEq, List.mem_flatMap, List.mem_attach, true_and,
    Subtype.exists]
  constructor
  · rintro (h | ⟨c, hc, h⟩)
    · exact .inl h
    · exact .inr ⟨c, hc, h⟩
  · rintro (h | ⟨c, hc, h⟩)
    · exact .inl h
    · exact .inr ⟨c, hc, h⟩

theorem self_mem_nodesAt (depth : Nat) (n : Node) : (n, depth) ∈ n.nodesAt depth :=
  mem_nodesAt.2 (.inl ⟨rfl, rfl⟩)

theorem mem_nodesAt_of_mem_children {depth : Nat} {n c A : Node} {dA : Nat} (hc : c ∈ n.children)
    (hA : (A, dA) ∈ c.nodesAt (n.innerDepth depth)) : (A, dA) ∈ n.nodesAt depth :=
  mem_nodesAt.2 (.inr ⟨c, hc, hA⟩)

theorem nodesAt_eq (n : Node) (depth : Nat) :
    n.nodesAt depth = (n, depth) :: n.children.flatMap (·.nodesAt (n.innerDepth depth)) := by
  rw [nodesAt]
  simp

/-- The nodes of a tree in pre-order, each with its proper ancestors, the nearest first, below
the ancestors `above` of the root. -/
def withAncestors (above : List Node) (n : Node) : List (Node × List Node) :=
  (n, above) :: n.children.attach.flatMap fun ⟨c, _⟩ => c.withAncestors (n :: above)
termination_by sizeOf n
decreasing_by exact sizeOf_lt_of_mem_children ‹_›

theorem self_mem_withAncestors (above : List Node) (n : Node) :
    (n, above) ∈ n.withAncestors above := by
  rw [withAncestors]
  exact List.mem_cons_self

theorem mem_withAncestors_of_mem_children {above : List Node} {n c A : Node} {anc : List Node}
    (hc : c ∈ n.children) (hA : (A, anc) ∈ c.withAncestors (n :: above)) :
    (A, anc) ∈ n.withAncestors above := by
  rw [withAncestors]
  exact List.mem_cons_of_mem _ (List.mem_flatMap.2 ⟨⟨c, hc⟩, List.mem_attach _ _, hA⟩)

theorem innerDepth_countP (n : Node) (above : List Node) :
    n.innerDepth (above.countP isFunction) = (n :: above).countP isFunction := by
  rw [innerDepth, List.countP_cons]
  split <;> simp_all

/-- The depth the walk carries to a node is the number of functions among its ancestors. -/
theorem nodesAt_eq_withAncestors (above : List Node) (n : Node) :
    n.nodesAt (above.countP isFunction) =
      (n.withAncestors above).map fun x => (x.1, x.2.countP isFunction) := by
  rw [nodesAt, withAncestors, List.map_cons, List.map_flatMap, innerDepth_countP]
  congr 2
  funext ⟨c, hc⟩
  exact nodesAt_eq_withAncestors (n :: above) c
termination_by sizeOf n
decreasing_by exact sizeOf_lt_of_mem_children hc

end Node

namespace Purity

theorem exists_mem_marked {n c : Node} (h : c ∈ n.children) :
    ∃ link spelled, (c, link, spelled) ∈ marked n := by
  rw [← spelledChildren_map_fst] at h
  obtain ⟨⟨c', spelled⟩, hm, rfl⟩ := List.mem_map.1 h
  obtain ⟨i, hi⟩ : ∃ i, ((c', spelled), i) ∈ n.spelledChildren.zipIdx := by
    obtain ⟨i, hi, he⟩ := List.getElem_of_mem hm
    exact ⟨i, List.mk_mem_zipIdx_iff_getElem?.2 (by rw [List.getElem?_eq_getElem hi, he])⟩
  exact ⟨_, spelled, List.mem_map.2 ⟨_, hi, rfl⟩⟩

theorem marked_map_fst (n : Node) : (marked n).map Prod.fst = n.children := by
  have h : (marked n).map Prod.fst = (n.spelledChildren.zipIdx.map Prod.fst).map Prod.fst := by
    simp only [marked, List.map_map]
    rfl
  rw [h, List.zipIdx_map_fst, spelledChildren_map_fst]

theorem flatMap_marked {β : Type} (n : Node) (f : Node → List β) :
    (marked n).attach.flatMap (fun x => f x.1.1) = n.children.flatMap f := by
  rw [← marked_map_fst, List.flatMap_map]
  exact (List.flatMap_subtype fun _ _ => rfl).trans (by rw [List.unattach_attach])

namespace Survey

/-- One step of the walk: the node's own report, then its children's findings in order. -/
theorem walk_eq_ok {s : Survey} {depth : Nat} {quiet spelled : Bool} {n : Node}
    {vs : List Violation} (h : s.walk depth quiet spelled n = .ok vs) :
    ∃ own matched, ∃ found : List (List Violation), s.inspect depth quiet spelled n = .ok (own, matched) ∧
      (∀ c link name, (c, link, name) ∈ marked n →
        ∃ w ∈ found, s.walk (n.innerDepth depth) ((quiet || matched) && link) name c = .ok w) ∧
      (∀ w ∈ found, ∃ c link name, (c, link, name) ∈ marked n ∧
        s.walk (n.innerDepth depth) ((quiet || matched) && link) name c = .ok w) ∧
      vs = own ++ found.flatten := by
  rw [walk] at h
  obtain ⟨⟨own, matched⟩, hinspect, h⟩ := except_bind_eq_ok.1 h
  obtain ⟨found, hfound, h⟩ := except_bind_eq_ok.1 h
  refine ⟨own, matched, found, hinspect, ?_, ?_, (except_pure_eq_ok.1 h).symm⟩
  · intro c link name hm
    exact exists_of_mapM_eq_ok hfound ⟨(c, link, name), hm⟩ (List.mem_attach _ _)
  · intro w hw
    obtain ⟨⟨⟨c, link, name⟩, hm⟩, -, hwalk⟩ := exists_of_mem_mapM_eq_ok hfound w hw
    exact ⟨c, link, name, hm, hwalk⟩

/-- A successful walk inspects every node of the tree at its depth, and the node's
report stands whole in the findings. -/
theorem report_infix_of_mem_nodesAt (s : Survey) (n : Node) (depth : Nat) (quiet spelled : Bool)
    {vs : List Violation} (hwalk : s.walk depth quiet spelled n = .ok vs) {A : Node} {dA : Nat}
    (hA : (A, dA) ∈ n.nodesAt depth) :
    ∃ quiet' spelled' own matched, s.inspect dA quiet' spelled' A = .ok (own, matched) ∧
      own <:+: vs := by
  obtain ⟨own, matched, found, hinspect, hchildren, -, rfl⟩ := walk_eq_ok hwalk
  rcases Node.mem_nodesAt.1 hA with ⟨rfl, rfl⟩ | ⟨c, hc, hA⟩
  · exact ⟨quiet, spelled, own, matched, hinspect, List.infix_append [] own _⟩
  · -- the node lies below a child, whose findings are one piece of the flattened list
    obtain ⟨link, name, hm⟩ := Purity.exists_mem_marked hc
    obtain ⟨w, hw, hwalkc⟩ := hchildren c link name hm
    obtain ⟨q', sp', own', m', hi, hinfix⟩ :=
      report_infix_of_mem_nodesAt s c _ _ _ hwalkc hA
    refine ⟨q', sp', own', m', hi, hinfix.trans ?_⟩
    exact (List.infix_of_mem_flatten hw).trans (List.suffix_append own found.flatten).isInfix
termination_by sizeOf n
decreasing_by exact Node.sizeOf_lt_of_mem_children hc

/-- Every finding of a successful walk was reported by one node of the tree, inspected
at its depth. -/
theorem exists_report_of_mem (s : Survey) (n : Node) (depth : Nat) (quiet spelled : Bool)
    {vs : List Violation} (hwalk : s.walk depth quiet spelled n = .ok vs) {v : Violation}
    (hv : v ∈ vs) :
    ∃ A dA, (A, dA) ∈ n.nodesAt depth ∧ ∃ quiet' spelled' own matched,
      s.inspect dA quiet' spelled' A = .ok (own, matched) ∧ v ∈ own := by
  obtain ⟨own, matched, found, hinspect, -, hfound, rfl⟩ := walk_eq_ok hwalk
  rcases List.mem_append.1 hv with hown | hinner
  · exact ⟨n, depth, Node.self_mem_nodesAt depth n, quiet, spelled, own, matched, hinspect, hown⟩
  · -- the finding came from the walk below one child
    obtain ⟨w, hw, hvw⟩ := List.mem_flatten.1 hinner
    obtain ⟨c, link, name, hm, hwalkc⟩ := hfound w hw
    have hc := Purity.mem_children_of_mem_marked hm
    obtain ⟨A, dA, hA, rest⟩ := exists_report_of_mem s c _ _ _ hwalkc hvw
    exact ⟨A, dA, Node.mem_nodesAt_of_mem_children hc hA, rest⟩
termination_by sizeOf n
decreasing_by exact Node.sizeOf_lt_of_mem_children hc

/-- The report a node seen at a depth makes in the walk: its own inspection at that depth,
under some flags. -/
def Reports (s : Survey) (x : Node × Nat) (own : List Violation) : Prop :=
  ∃ quiet spelled matched, s.inspect x.2 quiet spelled x.1 = .ok (own, matched)

/-- A successful walk is the reports of the nodes of the tree, one for one in pre-order, each
inspected at its depth, joined in that order. -/
theorem walk_reports (s : Survey) (n : Node) (depth : Nat) (quiet spelled : Bool)
    {vs : List Violation} (hwalk : s.walk depth quiet spelled n = .ok vs) :
    ∃ reports, List.Forall₂ s.Reports (n.nodesAt depth) reports ∧ vs = reports.flatten := by
  rw [walk] at hwalk
  obtain ⟨⟨own, matched⟩, hinspect, h⟩ := except_bind_eq_ok.1 hwalk
  obtain ⟨found, hfound, h⟩ := except_bind_eq_ok.1 h
  obtain rfl := except_pure_eq_ok.1 h
  -- the findings below each child are the reports of its nodes, by the walk of the child
  have hchildren : List.Forall₂ (fun x w => ∃ rs,
      List.Forall₂ s.Reports (x.1.1.nodesAt (n.innerDepth depth)) rs ∧ w = rs.flatten)
      (marked n).attach found :=
    (forall₂_of_mapM_eq_ok hfound).imp fun ⟨⟨c, link, name⟩, hm⟩ w hw => walk_reports s c _ _ _ hw
  obtain ⟨rs, hrs, hflat⟩ := exists_forall₂_flatMap hchildren
  rw [flatMap_marked n fun c => c.nodesAt (n.innerDepth depth)] at hrs
  refine ⟨own :: rs, ?_, by rw [List.flatten_cons, hflat]⟩
  rw [Node.nodesAt_eq]
  exact .cons ⟨quiet, spelled, matched, hinspect⟩ hrs
termination_by sizeOf n
decreasing_by exact Node.sizeOf_lt_of_mem_children (mem_children_of_mem_marked hm)

end Survey

end Purity

/-! ## The analysis of a program -/

/-- A successful analysis is the walk's findings; a failed one reports the fault alone. -/
theorem analyzePurity_eq (allowance : Purity.Allowance) (P : Node) :
    analyzePurity allowance P =
      match (Purity.survey allowance P).walk 0 false false P with
      | .ok vs => vs
      | .error f => [Purity.failure f] := rfl

/-- When the walk over a program succeeds, the report of each node stands in the analysis. -/
theorem report_infix_analyzePurity {allowance : Purity.Allowance} {P : Node} {vs : List Violation}
    (hwalk : (Purity.survey allowance P).walk 0 false false P = .ok vs) {A : Node} {dA : Nat}
    (hA : (A, dA) ∈ P.nodesAt 0) :
    ∃ quiet spelled own matched,
      (Purity.survey allowance P).inspect dA quiet spelled A = .ok (own, matched) ∧
      own <:+: analyzePurity allowance P := by
  rw [analyzePurity_eq, hwalk]
  exact Purity.Survey.report_infix_of_mem_nodesAt _ P 0 false false hwalk hA

/-- Every breach the analysis reports is the fault that stopped it, or was reported by one
node of the program. -/
theorem mem_analyzePurity {allowance : Purity.Allowance} {P : Node} {v : Violation}
    (hv : v ∈ analyzePurity allowance P) :
    (∃ f, (Purity.survey allowance P).walk 0 false false P = .error f ∧ v = Purity.failure f) ∨
    ∃ A dA, (A, dA) ∈ P.nodesAt 0 ∧ ∃ quiet spelled own matched,
      (Purity.survey allowance P).inspect dA quiet spelled A = .ok (own, matched) ∧ v ∈ own := by
  rw [analyzePurity_eq] at hv
  split at hv
  case h_1 vs hwalk =>
    exact .inr (Purity.Survey.exists_report_of_mem _ P 0 false false hwalk hv)
  case h_2 f hwalk =>
    exact .inl ⟨f, hwalk, List.mem_singleton.1 hv⟩

end ScriptGate
