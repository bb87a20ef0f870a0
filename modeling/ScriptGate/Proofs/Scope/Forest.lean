import ScriptGate.Proofs.Scope.Functions

/-!
# The scopes of a program form a forest

The builder appends a scope each time one opens, inside the scope the walk is in, and
records it among that scope's children; a binding only ever joins a scope under a name
the scope does not declare yet.  So the arena of a program is a tree rooted at the module
scope (`Arena.Forest`): scope 0 is the module scope and the only one without a parent,
every other scope has a parent with a smaller index, the children a scope lists are
exactly the scopes whose parent it is, in order, a module or function scope is its own
function scope and any other has its parent's, and each scope declares a name once, in
a binding that knows its scope and that scope's function scope.

Each step of the builder keeps an arena a forest (`ScopeBuilder.KeepsForest`), and so
does every walk of a node that holds no program (`ScopeBuilder.keepsOn`).  Since a parent
has a smaller index, the chain of parents from scope `i` holds at most `i + 1` scopes:
its first module or function scope is the function scope of `i`
(`Arena.Forest.find?_chain`), and a name resolves from `i` within `i + 1` steps
(`Arena.Forest.resolveFrom_eq`).
-/

namespace ScriptGate

/-- Whether a scope of this kind is its own function scope: the module and function
scopes. -/
def ScopeKind.ownsFunction : ScopeKind → Bool
  | .module | .function => true
  | _ => false

theorem ScopeKind.ownsFunction_iff (k : ScopeKind) :
    k.ownsFunction = true ↔ k = .module ∨ k = .function := by
  cases k <;> simp [ownsFunction]

/-- Whether a node is a program. -/
def Node.isProgram : Node → Bool
  | .program .. => true
  | _ => false

/-- A node that holds no program, itself included.  A tree read from a text holds one
program, at its top. -/
def Node.ProgramFree (n : Node) : Prop := ∀ m ∈ n.nodes, m.isProgram = false

instance : DecidablePred Node.ProgramFree := fun n =>
  inferInstanceAs (Decidable (∀ m ∈ n.nodes, m.isProgram = false))

theorem Node.ProgramFree.isProgram {n : Node} (h : n.ProgramFree) : n.isProgram = false :=
  h n (by rw [Node.nodes]; exact List.mem_cons_self)

theorem Node.ProgramFree.child {n c : Node} (h : n.ProgramFree) (hc : c ∈ n.children) :
    c.ProgramFree := fun m hm =>
  h m (by rw [Node.nodes]; exact List.mem_cons_of_mem _ (List.mem_flatMap.2 ⟨⟨c, hc⟩, by simp, hm⟩))

/-- The bindings of a scope with index `k`: each name once, each binding of scope `k` and of
the scope's function scope. -/
def Scope.BindingsAt (s : Scope) (k : Nat) : Prop :=
  (s.bindings.map (·.name)).Nodup ∧ ∀ b ∈ s.bindings, b.scope = k ∧ b.functionScope = s.functionScope

namespace Arena

/-- The parent of scope `i`. -/
def parentOf (a : Arena) (i : Nat) : Option Nat := (a.scope? i).bind (·.parent)

/-- Whether scope `j` is its own function scope. -/
def ownsFunction (a : Arena) (j : Nat) : Bool := (a.scope? j).any (·.kind.ownsFunction)

/-- The scopes of `a` form a tree rooted at the module scope, and each declares its names
once. -/
structure Forest (a : Arena) : Prop where
  /-- Scope 0 is the module scope, with no parent. -/
  root : ∃ s, a.scope? 0 = some s ∧ s.kind = .module ∧ s.parent = none
  /-- Every other scope has a parent with a smaller index. -/
  parent_lt : ∀ i s, a.scope? i = some s → i ≠ 0 → ∃ p, s.parent = some p ∧ p < i
  /-- The children of a scope are the scopes whose parent it is, in order. -/
  children : ∀ p s, a.scope? p = some s →
    s.children = (List.range a.scopes.size).filter (a.parentOf · = some p)
  /-- A module or function scope is its own function scope. -/
  functionScope_self : ∀ i s, a.scope? i = some s → s.kind.ownsFunction = true →
    s.functionScope = i
  /-- Any other scope has the function scope of its parent. -/
  functionScope_parent : ∀ i s p ps, a.scope? i = some s → s.parent = some p →
    a.scope? p = some ps → s.kind.ownsFunction = false → s.functionScope = ps.functionScope
  /-- Each scope declares a name once, in a binding of its own. -/
  bindings : ∀ k s, a.scope? k = some s → s.BindingsAt k

theorem size_withChildScope (a : Arena) (i : Nat) (sc : Scope) :
    (a.withChildScope i sc).scopes.size = a.scopes.size + 1 := by
  simp only [withChildScope, Array.size_modify, Array.size_push]

/-- Whether an arena is a forest depends on its scopes alone. -/
theorem Forest.of_scopes {a b : Arena} (h : a.Forest) (hs : b.scopes = a.scopes) : b.Forest := by
  cases a
  cases b
  cases hs
  exact ⟨h.1, h.2, h.3, h.4, h.5, h.6⟩

theorem lt_size_of_scope? {a : Arena} {i : Nat} {s : Scope} (h : a.scope? i = some s) :
    i < a.scopes.size :=
  (Array.getElem?_eq_some_iff.1 h).1

/-- The module scope has no parent; any other scope has one with a smaller index. -/
theorem Forest.parent_cases {a : Arena} (h : a.Forest) {i : Nat} {s : Scope}
    (hs : a.scope? i = some s) : s.parent = none ∧ s.kind = .module ∨
      ∃ p, s.parent = some p ∧ p < i := by
  by_cases hi : i = 0
  · subst hi
    obtain ⟨s₀, hs₀, hkind₀, hpar₀⟩ := h.root
    rw [hs₀] at hs
    cases hs
    exact .inl ⟨hpar₀, hkind₀⟩
  · exact .inr (h.parent_lt i s hs hi)

/-- Changing the bindings of one scope, and nothing else of it, keeps a forest one while
that scope still declares each name once in bindings of its own. -/
theorem Forest.modify {a : Arena} (h : a.Forest) (k : Nat) {F : Scope → Scope}
    (hF : ∀ s, (F s).kind = s.kind ∧ (F s).parent = s.parent ∧
      (F s).functionScope = s.functionScope ∧ (F s).children = s.children)
    (hbind : ∀ s, a.scope? k = some s → (F s).BindingsAt k) :
    ({ a with scopes := a.scopes.modify k F } : Arena).Forest := by
  let b : Arena := { a with scopes := a.scopes.modify k F }
  have hscope : ∀ j, b.scope? j = (a.scope? j).map fun s => if k = j then F s else s := by
    intro j
    simp only [b, scope?, Array.getElem?_modify]
    split <;> cases a.scopes[j]? <;> simp_all
  -- each scope of `b` is one of `a`, with the same kind, parent, function scope and children
  have hsame : ∀ j t, b.scope? j = some t → ∃ s, a.scope? j = some s ∧ t.kind = s.kind ∧
      t.parent = s.parent ∧ t.functionScope = s.functionScope ∧ t.children = s.children := by
    intro j t ht
    rw [hscope] at ht
    obtain ⟨s, hs, rfl⟩ := Option.map_eq_some_iff.1 ht
    refine ⟨s, hs, ?_⟩
    split
    · exact hF s
    · exact ⟨rfl, rfl, rfl, rfl⟩
  have hpar : ∀ j, b.parentOf j = a.parentOf j := by
    intro j
    simp only [parentOf, hscope]
    cases a.scope? j <;> simp only [Option.map_none, Option.map_some, Option.bind_none,
      Option.bind_some]
    split <;> simp [(hF _).2.1]
  obtain ⟨s₀, hs₀, hkind₀, hpar₀⟩ := h.root
  refine ⟨⟨_, by rw [hscope, hs₀]; rfl, ?_, ?_⟩, fun j t ht hj => ?_, fun p t ht => ?_,
    fun j t ht hown => ?_, fun j t p pt ht htp hpt hown => ?_, fun j t ht => ?_⟩
  · split <;> simp [hkind₀, (hF _).1]
  · split <;> simp [hpar₀, (hF _).2.1]
  · obtain ⟨s, hs, -, hp, -⟩ := hsame j t ht
    rw [hp]
    exact h.parent_lt j s hs hj
  · obtain ⟨s, hs, -, -, -, hc⟩ := hsame p t ht
    rw [hc, h.children p s hs]
    simp only [b, Array.size_modify, hpar]
  · obtain ⟨s, hs, hk, -, hfs, -⟩ := hsame j t ht
    rw [hfs]
    exact h.functionScope_self j s hs (hk ▸ hown)
  · obtain ⟨s, hs, hk, hp, hfs, -⟩ := hsame j t ht
    obtain ⟨ps, hps, -, -, hpfs, -⟩ := hsame p pt hpt
    rw [hfs, hpfs]
    exact h.functionScope_parent j s p ps hs (hp ▸ htp) hps (hk ▸ hown)
  · rw [hscope] at ht
    obtain ⟨s, hs, rfl⟩ := Option.map_eq_some_iff.1 ht
    split
    case isTrue hkj =>
      subst hkj
      exact hbind s hs
    case isFalse => exact h.bindings j s hs

/-- Opening a scope inside scope `i` keeps a forest one: the new scope comes last, with `i`
for its parent and among the children of `i`, and it is its own function scope if it is a
module or function scope and shares that of `i` otherwise. -/
theorem Forest.withChildScope {a : Arena} (h : a.Forest) {i : Nat} {ps : Scope}
    (hps : a.scope? i = some ps) (kind : ScopeKind) (node : Node) :
    (a.withChildScope i ⟨a.scopes.size, kind, node, some i,
      if kind = .module ∨ kind = .function then a.scopes.size else ps.functionScope, [], []⟩).Forest := by
  have hi := lt_size_of_scope? hps
  let sc : Scope := ⟨a.scopes.size, kind, node, some i,
    if kind = .module ∨ kind = .function then a.scopes.size else ps.functionScope, [], []⟩
  let b := a.withChildScope i sc
  have hscope : ∀ j, b.scope? j = if j = a.scopes.size then some sc else (a.scope? j).map
      fun s => if i = j then { s with children := s.children ++ [a.scopes.size] } else s :=
    scope?_withChildScope a hi sc
  have hsize : b.scopes.size = a.scopes.size + 1 := size_withChildScope a i sc
  show b.Forest
  clear_value b
  -- a scope of `b` is the new one, or one of `a` that keeps all but its children, and only
  -- `i` gains a child, the new scope
  have hcases : ∀ j t, b.scope? j = some t → j = a.scopes.size ∧ t = sc ∨
      ∃ s, a.scope? j = some s ∧ t.kind = s.kind ∧ t.parent = s.parent ∧
        t.functionScope = s.functionScope ∧ t.bindings = s.bindings ∧
        t.children = if i = j then s.children ++ [a.scopes.size] else s.children := by
    intro j t ht
    rw [hscope] at ht
    by_cases hj : j = a.scopes.size
    · rw [if_pos hj] at ht
      exact .inl ⟨hj, (Option.some.inj ht).symm⟩
    · rw [if_neg hj] at ht
      obtain ⟨s, hs, rfl⟩ := Option.map_eq_some_iff.1 ht
      refine .inr ⟨s, hs, ?_⟩
      split <;> simp_all
  have hpar : ∀ j, b.parentOf j = if j = a.scopes.size then some i else a.parentOf j := by
    intro j
    simp only [parentOf, hscope]
    split
    · rfl
    · cases a.scope? j <;> simp only [Option.map_none, Option.map_some, Option.bind_none,
        Option.bind_some]
      split <;> rfl
  -- no scope of `a` has the new scope for its parent
  have hfresh : ∀ c, c < a.scopes.size → a.parentOf c ≠ some a.scopes.size := by
    intro c hc hp
    obtain ⟨s, hs, hsp⟩ := Option.bind_eq_some_iff.1 hp
    rcases h.parent_cases hs with ⟨hnone, -⟩ | ⟨p, hp', hplt⟩
    · simp [hnone] at hsp
    · rw [hp'] at hsp
      cases hsp
      omega
  obtain ⟨s₀, hs₀, hkind₀, hpar₀⟩ := h.root
  refine ⟨?_, fun j t ht hj => ?_, fun p t ht => ?_, fun j t ht hown => ?_,
    fun j t p pt ht htp hpt hown => ?_, fun j t ht => ?_⟩
  · obtain ⟨t, ht⟩ : ∃ t, b.scope? 0 = some t := by
      rw [hscope, if_neg (by omega), hs₀]
      exact ⟨_, rfl⟩
    rcases hcases 0 t ht with ⟨h0, -⟩ | ⟨s, hs, hk, hp, -⟩
    · omega
    · rw [hs₀] at hs
      cases hs
      exact ⟨t, ht, hk.trans hkind₀, hp.trans hpar₀⟩
  · rcases hcases j t ht with ⟨rfl, rfl⟩ | ⟨s, hs, -, hp, -⟩
    · exact ⟨i, rfl, hi⟩
    · rw [hp]
      exact h.parent_lt j s hs hj
  · rw [hsize, List.range_succ, List.filter_append]
    have hrange : (List.range a.scopes.size).filter (b.parentOf · = some p) =
        (List.range a.scopes.size).filter (a.parentOf · = some p) :=
      List.filter_congr fun c hc => by rw [hpar, if_neg (by simp at hc; omega)]
    rw [hrange]
    rcases hcases p t ht with ⟨rfl, rfl⟩ | ⟨s, hs, -, -, -, -, hc⟩
    · -- the new scope has no children yet
      have hnone : (List.range a.scopes.size).filter (a.parentOf · = some a.scopes.size) = [] :=
        List.filter_eq_nil_iff.2 fun c hc => by simpa using hfresh c (by simpa using hc)
      simp [hnone, hpar, sc, show i ≠ a.scopes.size by omega]
    · rw [hc, ← h.children p s hs]
      by_cases hip : i = p <;> simp [hip, hpar]
  · rcases hcases j t ht with ⟨rfl, rfl⟩ | ⟨s, hs, hk, -, hfs, -⟩
    · exact if_pos ((ScopeKind.ownsFunction_iff kind).1 hown)
    · rw [hfs]
      exact h.functionScope_self j s hs (hk ▸ hown)
  · rcases hcases j t ht with ⟨rfl, rfl⟩ | ⟨s, hs, hk, hp, hfs, -⟩
    · -- the new scope shares the function scope of `i`
      cases htp
      rcases hcases i pt hpt with ⟨hin, -⟩ | ⟨s, hs, -, -, hfs, -⟩
      · omega
      · rw [hps] at hs
        cases hs
        rw [hfs]
        change kind.ownsFunction = false at hown
        exact if_neg fun hk => by simp [(ScopeKind.ownsFunction_iff kind).2 hk] at hown
    · rcases h.parent_cases hs with ⟨hnone, -⟩ | ⟨p', hp', hplt⟩
      · rw [hp, hnone] at htp
        cases htp
      · rw [hp, hp'] at htp
        cases htp
        rcases hcases p pt hpt with ⟨hpn, -⟩ | ⟨ps', hps', -, -, hpfs, -⟩
        · have := lt_size_of_scope? hs
          omega
        · rw [hfs, hpfs]
          exact h.functionScope_parent j s p ps' hs hp' hps' (hk ▸ hown)
  · rcases hcases j t ht with ⟨rfl, rfl⟩ | ⟨s, hs, -, -, hfs, hb, -⟩
    · exact ⟨List.nodup_nil, fun _ hb => by cases hb⟩
    · obtain ⟨hnodup, hall⟩ := h.bindings j s hs
      exact ⟨hb ▸ hnodup, fun x hx => hfs ▸ hall x (hb ▸ hx)⟩

/-! ## Chains in a forest -/

theorem exists_scope?_of_lt {a : Arena} {p : Nat} (hp : p < a.scopes.size) :
    ∃ ps, a.scope? p = some ps :=
  ⟨a.scopes[p], Array.getElem?_eq_getElem hp⟩

theorem chainFrom_none (a : Arena) (n : Nat) : a.chainFrom n none = [] := by
  cases n <;> rfl

/-- The chain of parents from scope `i` is whole after `i + 1` steps: more fuel finds no
more scopes. -/
theorem Forest.chainFrom_eq {a : Arena} (h : a.Forest) (i : Nat) :
    ∀ fuel, i + 1 ≤ fuel → a.chainFrom fuel (some i) = a.chainFrom (i + 1) (some i) := by
  -- each step up the chain goes to a smaller index
  induction i using Nat.strongRecOn with
  | ind i ih =>
    intro fuel hfuel
    obtain ⟨n, rfl⟩ : ∃ n, fuel = n + 1 := ⟨fuel - 1, by omega⟩
    simp only [chainFrom]
    cases hs : a.scope? i with
    | none => rfl
    | some s =>
      rcases h.parent_cases hs with ⟨hp, -⟩ | ⟨p, hp, hlt⟩
      · simp [hp, chainFrom_none]
      · simp only [hp, ih p hlt n (by omega), ih p hlt i (by omega)]

/-- The first module or function scope up the chain from scope `i` is the function scope
of `i`. -/
theorem Forest.find?_chainFrom {a : Arena} (h : a.Forest) (i : Nat) :
    ∀ s, a.scope? i = some s →
      (a.chainFrom (i + 1) (some i)).find? a.ownsFunction = some s.functionScope := by
  induction i using Nat.strongRecOn with
  | ind i ih =>
    intro s hs
    have hown : a.ownsFunction i = s.kind.ownsFunction := by simp [ownsFunction, hs]
    simp only [chainFrom, hs]
    cases hk : s.kind.ownsFunction
    · -- a scope that is no function scope has a parent, whose function scope it shares
      rcases h.parent_cases hs with ⟨-, hmod⟩ | ⟨p, hp, hlt⟩
      · simp [hmod, ScopeKind.ownsFunction] at hk
      · obtain ⟨ps, hps⟩ := exists_scope?_of_lt (Nat.lt_trans hlt (lt_size_of_scope? hs))
        rw [List.find?_cons_of_neg (by simp [hown, hk]), hp, h.chainFrom_eq p i (by omega),
          ih p hlt ps hps, h.functionScope_parent i s p ps hs hp hps hk]
    · rw [List.find?_cons_of_pos (by simp [hown, hk]), h.functionScope_self i s hs hk]

/-- The function scope of a scope is the first module or function scope up its chain. -/
theorem Forest.find?_chain {a : Arena} (h : a.Forest) {i : Nat} {s : Scope}
    (hs : a.scope? i = some s) : (a.chain i).find? a.ownsFunction = some s.functionScope := by
  rw [chain, h.chainFrom_eq i _ (by have := lt_size_of_scope? hs; omega)]
  exact h.find?_chainFrom i s hs

/-- A name resolves from scope `i` within `i + 1` steps up the chain of parents. -/
theorem Forest.resolveFrom_eq {a : Arena} (h : a.Forest) (name : String) {i fuel : Nat}
    (hfuel : i + 1 ≤ fuel) :
    a.resolveFrom name fuel (some i) = a.resolveFrom name (i + 1) (some i) := by
  rw [resolveFrom_eq_find? a name fuel, resolveFrom_eq_find? a name (i + 1),
    h.chainFrom_eq i fuel hfuel]

/-- In a list of bindings with distinct names, a binding is the first of its name. -/
theorem find?_name_eq {l : List Binding} (hl : (l.map (·.name)).Nodup) {b : Binding}
    (hb : b ∈ l) : l.find? (·.name == b.name) = some b := by
  induction l with
  | nil => cases hb
  | cons x xs ih =>
    rw [List.map_cons, List.nodup_cons] at hl
    by_cases hx : x.name = b.name
    · rw [List.find?_cons_of_pos (by simp [hx])]
      rcases List.mem_cons.1 hb with rfl | hb
      · rfl
      · exact absurd (hx ▸ List.mem_map_of_mem hb) hl.1
    · rw [List.find?_cons_of_neg (by simp [hx])]
      exact ih hl.2 ((List.mem_cons.1 hb).resolve_left fun h => hx (h ▸ rfl))

/-- Each binding of a scope of a forest is the one its scope and name look up. -/
theorem Forest.binding?_eq {a : Arena} (h : a.Forest) {k : Nat} {s : Scope}
    (hs : a.scope? k = some s) {b : Binding} (hb : b ∈ s.bindings) :
    a.binding? (k, b.name) = some b := by
  simp only [binding?, hs, Option.bind_some]
  exact find?_name_eq (h.bindings k s hs).1 hb

end Arena

namespace ScopeBuilder

open Node Arena

/-! ## Steps of the builder that keep a forest -/

/-- A step of the builder from the arena `a`, run in scope `i`: if `a` is a forest in which
`i` is a scope, the step leaves a forest with at least as many scopes. -/
def KeepsForestFrom {α : Type} (m : ScopeM α) (i : Nat) (a : Arena) : Prop :=
  a.Forest → i < a.scopes.size →
    (Id.run (m.run a)).2.Forest ∧ a.scopes.size ≤ (Id.run (m.run a)).2.scopes.size

/-- A step of the builder that keeps every forest a forest, run in scope `i`. -/
def KeepsForest {α : Type} (m : ScopeM α) (i : Nat) : Prop := ∀ a, KeepsForestFrom m i a

namespace KeepsForest

variable {α β : Type} {i : Nat}

theorem pure (x : α) : KeepsForest (Pure.pure x : ScopeM α) i :=
  fun _ h _ => ⟨h, Nat.le_refl _⟩

theorem bindFrom {a : Arena} {m : ScopeM α} {f : α → ScopeM β} (hm : KeepsForestFrom m i a)
    (hf : ∀ x, KeepsForest (f x) i) : KeepsForestFrom (m >>= f) i a := by
  intro h hi
  obtain ⟨h₁, hs₁⟩ := hm h hi
  obtain ⟨h₂, hs₂⟩ := hf _ _ h₁ (by omega)
  simp only [StateT.run_bind, Id.run_bind]
  exact ⟨h₂, by omega⟩

theorem bind {m : ScopeM α} {f : α → ScopeM β} (hm : KeepsForest m i)
    (hf : ∀ x, KeepsForest (f x) i) : KeepsForest (m >>= f) i :=
  fun a => bindFrom (hm a) hf

/-- A value returned, then a step run with it: the step alone. -/
theorem pure_bind {x : α} {f : α → ScopeM β} (h : KeepsForest (f x) i) :
    KeepsForest (Pure.pure x >>= f) i := h

/-- A step that looks at the arena, then does what the arena it saw says. -/
theorem get_bind {f : Arena → ScopeM β} (hf : ∀ a, KeepsForestFrom (f a) i a) :
    KeepsForest (get >>= f) i := fun a => hf a

theorem forM {xs : List β} {f : β → ScopeM PUnit} (h : ∀ x ∈ xs, KeepsForest (f x) i) :
    KeepsForest (xs.forM f) i := by
  induction xs with
  | nil => exact pure _
  | cons x xs ih =>
    exact bind (h x List.mem_cons_self) fun _ => ih fun y hy => h y (List.mem_cons_of_mem _ hy)

theorem forM_attach {xs : List β} {f : {x // x ∈ xs} → ScopeM PUnit}
    (h : ∀ x (hx : x ∈ xs), KeepsForest (f ⟨x, hx⟩) i) : KeepsForest (xs.attach.forM f) i :=
  forM fun ⟨x, hx⟩ _ => h x hx

/-- A change of the arena that leaves its scopes alone. -/
theorem of_scopes {g : Arena → Arena} (hg : ∀ a, (g a).scopes = a.scopes) :
    KeepsForest (modify g : ScopeM PUnit) i :=
  fun a h _ => ⟨h.of_scopes (hg a), Nat.le_of_eq (congrArg Array.size (hg a)).symm⟩

end KeepsForest

variable {i : Nat}

/-- Opening a scope inside scope `i` keeps a forest one; what follows runs in the new scope. -/
theorem addScope_bind_keeps {kind : ScopeKind} {node : Node} {β : Type} {f : Nat → ScopeM β}
    (hf : ∀ j, KeepsForest (f j) j) : KeepsForest (addScope kind node (some i) >>= f) i := by
  intro a h hi
  obtain ⟨ps, hps⟩ := exists_scope?_of_lt hi
  have h₁ := h.withChildScope hps kind node
  simp only [StateT.run_bind, Id.run_bind]
  rw [addScope_run kind node hps]
  dsimp only
  obtain ⟨h₂, hs₂⟩ := hf a.scopes.size _ h₁ (by rw [size_withChildScope]; omega)
  rw [size_withChildScope] at hs₂
  exact ⟨h₂, by omega⟩

/-- Changing bindings without renaming them or moving them to another scope keeps a forest
one. -/
theorem updateBinding_keeps (key : BindingKey) {f : Binding → Binding}
    (hf : ∀ b, (f b).name = b.name ∧ (f b).scope = b.scope ∧
      (f b).functionScope = b.functionScope) :
    KeepsForest (updateBinding key f) i := by
  intro a h _
  refine ⟨h.modify key.1 (fun _ => ⟨rfl, rfl, rfl, rfl⟩) fun s hs => ?_,
    Nat.le_of_eq (Array.size_modify ..).symm⟩
  obtain ⟨hnodup, hall⟩ := h.bindings key.1 s hs
  have hg : ∀ b : Binding, (if b.name == key.2 then f b else b).name = b.name ∧
      (if b.name == key.2 then f b else b).scope = b.scope ∧
      (if b.name == key.2 then f b else b).functionScope = b.functionScope := by
    intro b
    split
    · exact hf b
    · exact ⟨rfl, rfl, rfl⟩
  refine ⟨?_, fun b' hb' => ?_⟩
  · simpa only [List.map_map, Function.comp_def, hg] using hnodup
  · obtain ⟨b, hb, rfl⟩ := List.mem_map.1 hb'
    rw [(hg b).2.1, (hg b).2.2]
    exact hall b hb

/-- Declaring a name keeps a forest one: a name declared again keeps its binding, a new one
is appended with the scope's index and function scope. -/
theorem declare_keeps (j : Nat) (ident : Node) (kind : BindingKind) :
    KeepsForest (declare j ident kind) i := by
  have hdeclared : ∀ entry : Nat × BindingKey,
      KeepsForest (modify fun a => { a with declared := entry :: a.declared } : ScopeM PUnit) i :=
    fun _ => KeepsForest.of_scopes fun _ => rfl
  cases ident
  case identifier sp name =>
    refine KeepsForest.get_bind fun a => ?_
    cases hs : a.scope? j with
    | none => exact KeepsForest.pure _ a
    | some s =>
      dsimp only
      split
      · exact KeepsForest.bind (updateBinding_keeps _ fun b => by split <;> exact ⟨rfl, rfl, rfl⟩)
          (fun _ => KeepsForest.bind (hdeclared _) fun _ => KeepsForest.pure _) a
      next hany =>
        refine KeepsForest.bindFrom ?_ fun _ => KeepsForest.bind (hdeclared _) fun _ =>
          KeepsForest.pure _
        intro h _
        refine ⟨h.modify j (fun _ => ⟨rfl, rfl, rfl, rfl⟩) fun t ht => ?_,
          Nat.le_of_eq (Array.size_modify ..).symm⟩
        rw [hs] at ht
        cases ht
        obtain ⟨hnodup, hall⟩ := h.bindings j s hs
        refine ⟨?_, fun b hb => ?_⟩
        · -- the new name is not among the names of the scope
          rw [List.map_append, List.nodup_append]
          refine ⟨hnodup, by simp, fun x hx y hy => ?_⟩
          obtain ⟨b, hb, rfl⟩ := List.mem_map.1 hx
          rw [List.mem_singleton.1 hy]
          rintro rfl
          exact hany (List.any_eq_true.2 ⟨b, hb, by simp⟩)
        · rcases List.mem_append.1 hb with hb | hb
          · exact hall b hb
          · rw [List.mem_singleton.1 hb]
            exact ⟨rfl, rfl⟩
  all_goals exact KeepsForest.pure _

theorem addReference_keeps (ident : Node) (j : Nat) (read write : Bool) :
    KeepsForest (addReference ident j read write) i := by
  cases ident
  case identifier sp name =>
    exact KeepsForest.get_bind fun a h _ => ⟨h.of_scopes rfl, Nat.le_refl _⟩
  all_goals exact KeepsForest.pure _

theorem declare_keeps_unit (j : Nat) (kind : BindingKind) (ident : Node) :
    KeepsForest (do let _ ← declare j ident kind : ScopeM PUnit) i :=
  KeepsForest.bind (declare_keeps _ _ _) fun _ => KeepsForest.pure _

theorem declareInitialized_keeps (j : Nat) (ident : Node) (kind : BindingKind) :
    KeepsForest (declareInitialized j ident kind) i := by
  refine KeepsForest.bind (declare_keeps _ _ _) fun key => ?_
  cases key with
  | none => exact KeepsForest.pure _
  | some key => exact updateBinding_keeps _ fun _ => ⟨rfl, rfl, rfl⟩

theorem declareUnlessDeclared_keeps (j : Nat) (ident : Node) (kind : BindingKind) :
    KeepsForest (do if ((← get).declaredAt ident.span.start.offset).isNone then
      let _ ← declare j ident kind) i := by
  refine KeepsForest.get_bind fun a => ?_
  split
  · exact declare_keeps_unit _ _ _ a
  · exact KeepsForest.pure _ a

theorem forM_declarators_keeps (ds : List Node) {f : Node → ScopeM PUnit}
    (hf : ∀ x, KeepsForest (f x) i) :
    KeepsForest (ds.forM fun d => match d with
      | .variableDeclarator _ t _ => (patternIdentifiers t).forM f
      | _ => pure ()) i := by
  refine KeepsForest.forM fun d _ => ?_
  split
  · exact KeepsForest.forM fun x _ => hf x
  · exact KeepsForest.pure _

theorem hoistVars_keeps (n : Node) (j : Nat) : KeepsForest (hoistVars n j) i := by
  rw [hoistVars]
  refine KeepsForest.forM_attach fun c hc => ?_
  dsimp only
  split
  · exact KeepsForest.pure _
  · split
    · exact KeepsForest.bind (forM_declarators_keeps _ fun _ => declare_keeps_unit _ _ _)
        fun _ => hoistVars_keeps _ j
    · exact hoistVars_keeps _ j
termination_by sizeOf n
decreasing_by all_goals exact Node.sizeOf_lt_of_mem_children hc

theorem hoistLexical_keeps (statements : List Node) (j : Nat) :
    KeepsForest (hoistLexical statements j) i := by
  refine KeepsForest.forM fun st _ => ?_
  dsimp only
  split
  · split
    · exact forM_declarators_keeps _ fun _ => declare_keeps_unit _ _ _
    · exact KeepsForest.pure _
  · exact declare_keeps_unit _ _ _
  · exact declare_keeps_unit _ _ _
  · refine KeepsForest.forM fun spec _ => ?_
    split
    · exact declare_keeps_unit _ _ _
    · exact declare_keeps_unit _ _ _
    · exact declare_keeps_unit _ _ _
    · exact KeepsForest.pure _
  · exact KeepsForest.pure _

theorem markInitialized_keeps (p : Node) : KeepsForest (markInitialized p) i := by
  refine KeepsForest.forM fun ident _ => KeepsForest.get_bind fun a => ?_
  split
  · exact updateBinding_keeps _ (fun _ => by exact ⟨rfl, rfl, rfl⟩) a
  · exact KeepsForest.pure _ a

theorem markExported_keeps (d : Node) : KeepsForest (markExported d) i := by
  refine KeepsForest.forM fun ident _ => KeepsForest.get_bind fun a => ?_
  split
  · exact updateBinding_keeps _ (fun _ => by exact ⟨rfl, rfl, rfl⟩) a
  · exact KeepsForest.pure _ a

/-! ## Each walk keeps a forest -/

/-- The four walks of the builder on a node, each keeping a forest one when run in one of its
scopes. -/
structure KeepsOn (n : Node) : Prop where
  visit : ∀ s, KeepsForest (visit n s) s
  function : ∀ s, KeepsForest (function n s) s
  patternExpressions : ∀ s, KeepsForest (patternExpressions n s) s
  target : ∀ s read, KeepsForest (target n s read) s

/-- Every node smaller than `n` that holds no program is walked as `KeepsOn` says. -/
def KeepsBelow (n : Node) : Prop := ∀ c, sizeOf c < sizeOf n → c.ProgramFree → KeepsOn c

theorem KeepsBelow.child {n c : Node} (ih : KeepsBelow n) (hn : n.ProgramFree)
    (hc : c ∈ n.children) : KeepsOn c :=
  ih c (sizeOf_lt_of_mem_children hc) (hn.child hc)

theorem KeepsBelow.below {n c : Node} (ih : KeepsBelow n) (hc : c ∈ n.children) :
    KeepsBelow c := fun d hd => ih d (Nat.lt_trans hd (sizeOf_lt_of_mem_children hc))

theorem visitAll_keeps {ns : List Node} {s : Nat} (h : ∀ c ∈ ns, KeepsForest (visit c s) s) :
    KeepsForest (visitAll ns s) s := by
  rw [visitAll]
  exact KeepsForest.forM_attach fun c hc => h c hc

theorem visitOption_keeps {o : Option Node} {s : Nat} (h : ∀ c ∈ o, KeepsForest (visit c s) s) :
    KeepsForest (visitOption o s) s := by
  cases o with
  | none =>
    rw [visitOption]
    exact KeepsForest.pure _
  | some c =>
    rw [visitOption]
    exact h c rfl

/-- Hoisting a statement list, then walking it, keeps a forest one. -/
theorem hoistLexical_visitAll_keeps {stmts : List Node} {s : Nat}
    (h : ∀ c ∈ stmts, KeepsForest (visit c s) s) :
    KeepsForest (do hoistLexical stmts s; visitAll stmts s) s :=
  KeepsForest.bind (hoistLexical_keeps stmts s) fun _ => visitAll_keeps h

theorem function_keeps_step {n : Node} (ih : KeepsBelow n) (hn : n.ProgramFree) (parent : Nat) :
    KeepsForest (function n parent) parent := by
  rw [function.eq_def]
  cases n
  case functionDeclaration sp i ps b g a | functionExpression sp i ps b g a
      | arrowFunctionExpression sp ps b g a =>
    -- the parameters and the body are walked in the function's own scope
    refine addScope_bind_keeps fun f => ?_
    refine KeepsForest.bind (KeepsForest.forM_attach fun p hp => ?_) fun _ => ?_
    · exact KeepsForest.bind (KeepsForest.forM fun _ _ => declareInitialized_keeps _ _ _)
        fun _ => (ih.child hn (c := p) (by simp [children, hp])).patternExpressions f
    · have hb := ih.child hn (c := b) (by simp [children])
      have ihb := ih.below (c := b) (by simp [children])
      have hfb := hn.child (c := b) (by simp [children])
      cases b
      case blockStatement sp' stmts =>
        exact KeepsForest.bind (hoistVars_keeps _ f) fun _ => hoistLexical_visitAll_keeps
          fun st hst => (ihb.child hfb (c := st) (by simpa [children] using hst)).visit f
      all_goals exact hb.visit f
  all_goals exact KeepsForest.pure _

theorem patternExpressions_keeps_step {p : Node} (ih : KeepsBelow p) (hp : p.ProgramFree)
    (scope : Nat) : KeepsForest (patternExpressions p scope) scope := by
  rw [patternExpressions.eq_def]
  cases p
  case assignmentPattern sp l r =>
    exact KeepsForest.bind ((ih.child hp (c := l) (by simp [children])).patternExpressions scope)
      fun _ => (ih.child hp (c := r) (by simp [children])).visit scope
  case objectPattern sp props =>
    refine KeepsForest.forM_attach fun q hq => ?_
    have hqc : q ∈ (objectPattern sp props).children := by simpa [children] using hq
    have ihq := ih.below hqc
    have hfq := hp.child hqc
    cases q
    case property sp' k v kind computed method shorthand =>
      -- a property walks its computed key and its value's pattern
      have hv := (ihq.child hfq (c := v) (by simp [children])).patternExpressions scope
      cases computed
      · exact hv
      · exact KeepsForest.bind ((ihq.child hfq (c := k) (by simp [children])).visit scope)
          fun _ => hv
    all_goals exact (ih.child hp hqc).patternExpressions scope
  case arrayPattern sp es =>
    refine KeepsForest.forM_attach fun o ho => ?_
    cases o with
    | none => exact KeepsForest.pure _
    | some e =>
      exact (ih.child hp (c := e) (by simpa [children] using ho)).patternExpressions scope
  case restElement sp a =>
    exact (ih.child hp (c := a) (by simp [children])).patternExpressions scope
  all_goals exact KeepsForest.pure _

theorem target_keeps_step {t : Node} (ih : KeepsBelow t) (ht : t.ProgramFree)
    (hv : ∀ s, KeepsForest (visit t s) s) (scope : Nat) (read : Bool) :
    KeepsForest (target t scope read) scope := by
  rw [target.eq_def]
  cases t
  case identifier sp name =>
    exact KeepsForest.bind (addReference_keeps _ _ _ _) fun _ => KeepsForest.pure _
  case assignmentPattern sp l r =>
    exact KeepsForest.bind ((ih.child ht (c := l) (by simp [children])).target scope read)
      fun _ => (ih.child ht (c := r) (by simp [children])).visit scope
  case objectPattern sp props =>
    refine KeepsForest.forM_attach fun q hq => ?_
    have hqc : q ∈ (objectPattern sp props).children := by simpa [children] using hq
    have ihq := ih.below hqc
    have hfq := ht.child hqc
    cases q
    case property sp' k v kind computed method shorthand =>
      have hv' := (ihq.child hfq (c := v) (by simp [children])).target scope read
      cases computed
      · exact hv'
      · exact KeepsForest.bind ((ihq.child hfq (c := k) (by simp [children])).visit scope)
          fun _ => hv'
    all_goals exact (ih.child ht hqc).target scope read
  case arrayPattern sp es =>
    refine KeepsForest.forM_attach fun o ho => ?_
    cases o with
    | none => exact KeepsForest.pure _
    | some e => exact (ih.child ht (c := e) (by simpa [children] using ho)).target scope read
  case restElement sp a =>
    exact (ih.child ht (c := a) (by simp [children])).target scope read
  all_goals exact hv scope

/-! ### The nodes that declare names or open scopes

One lemma for each such node; the step lemma after them takes the other nodes
case by case. -/

theorem variableDeclaration_keeps {sp : Span} {ds : List Node} {kind : DeclarationKind}
    (ih : KeepsBelow (variableDeclaration sp ds kind))
    (hn : (variableDeclaration sp ds kind).ProgramFree) (scope : Nat) :
    KeepsForest (visit (variableDeclaration sp ds kind) scope) scope := by
  rw [visit.eq_def]
  refine KeepsForest.forM_attach fun d hd => ?_
  have hdc : d ∈ (variableDeclaration sp ds kind).children := hd
  have ihd := ih.below hdc
  have hfd := hn.child hdc
  cases d
  case variableDeclarator sp' t init =>
    -- each declarator declares its names, walks its pattern, then its value
    refine KeepsForest.bind (KeepsForest.forM fun ident _ =>
      declareUnlessDeclared_keeps scope ident _) fun _ => ?_
    refine KeepsForest.bind
      ((ihd.child hfd (c := t) (by simp [children])).patternExpressions scope) fun _ => ?_
    cases init with
    | none => exact KeepsForest.pure _
    | some v =>
      exact KeepsForest.bind (markInitialized_keeps t) fun _ =>
        (ihd.child hfd (c := v) (by simp [children])).visit scope
  all_goals exact KeepsForest.pure _

theorem classDeclaration_keeps {sp : Span} {ident : Option Node} {sc : Option Node}
    {body : Node} (ih : KeepsBelow (classDeclaration sp ident sc body))
    (hn : (classDeclaration sp ident sc body).ProgramFree) (scope : Nat) :
    KeepsForest (visit (classDeclaration sp ident sc body) scope) scope := by
  have hsub : ∀ c ∈ (classDeclaration sp ident sc body).children, ∀ s,
      KeepsForest (visit c s) s := fun c hc =>
    (ih.child hn hc).visit
  rw [visit.eq_def]
  have hrest : KeepsForest (do
      visitOption sc scope
      let c ← addScope .classBody (classDeclaration sp ident sc body) (some scope)
      visit body c) scope :=
    KeepsForest.bind (visitOption_keeps fun c hc =>
        hsub c (by simp [children, Option.mem_def.1 hc]) scope)
      fun _ => addScope_bind_keeps fun c => hsub body (by simp [children]) c
  cases ident with
  | none => exact hrest
  | some i =>
    refine KeepsForest.get_bind fun a => ?_
    split
    · exact KeepsForest.bind (declare_keeps_unit _ _ _) (fun _ => hrest) a
    · exact hrest a

theorem classExpression_keeps {sp : Span} {ident : Option Node} {sc : Option Node}
    {body : Node} (ih : KeepsBelow (classExpression sp ident sc body))
    (hn : (classExpression sp ident sc body).ProgramFree) (scope : Nat) :
    KeepsForest (visit (classExpression sp ident sc body) scope) scope := by
  have hsub : ∀ c ∈ (classExpression sp ident sc body).children, ∀ s,
      KeepsForest (visit c s) s := fun c hc =>
    (ih.child hn hc).visit
  rw [visit.eq_def]
  have hbody : ∀ c, KeepsForest (visit body c) c := hsub body (by simp [children])
  have hsc : KeepsForest (visitOption sc scope) scope :=
    visitOption_keeps fun c hc => hsub c (by simp [children, Option.mem_def.1 hc]) scope
  cases ident with
  | none => exact KeepsForest.bind hsc fun _ => addScope_bind_keeps hbody
  | some i =>
    -- the name of a class expression is declared inside its body's scope
    exact KeepsForest.bind hsc fun _ => addScope_bind_keeps fun c =>
      KeepsForest.bind (declare_keeps_unit _ _ _) fun _ => hbody c

theorem catchClause_keeps {sp : Span} {param : Option Node} {body : Node}
    (ih : KeepsBelow (catchClause sp param body)) (hn : (catchClause sp param body).ProgramFree)
    (scope : Nat) :
    KeepsForest (visit (catchClause sp param body) scope) scope := by
  have hsub : ∀ c ∈ (catchClause sp param body).children, ∀ s,
      KeepsForest (visit c s) s := fun c hc =>
    (ih.child hn hc).visit
  rw [visit.eq_def]
  have hbody : ∀ c, KeepsForest (visit body c) c := hsub body (by simp [children])
  cases param with
  | none => exact addScope_bind_keeps hbody
  | some p =>
    exact addScope_bind_keeps fun c =>
      KeepsForest.bind (KeepsForest.forM fun _ _ => declareInitialized_keeps _ _ _) fun _ =>
        KeepsForest.bind ((ih.child hn (c := p) (by simp [children])).patternExpressions c)
          fun _ => hbody c

theorem exportNamedDeclaration_keeps {sp : Span} {decl : Option Node} {specs : List Node}
    {src : Option Node} (ih : KeepsBelow (exportNamedDeclaration sp decl specs src))
    (hn : (exportNamedDeclaration sp decl specs src).ProgramFree) (scope : Nat) :
    KeepsForest (visit (exportNamedDeclaration sp decl specs src) scope) scope := by
  have hsub : ∀ c ∈ (exportNamedDeclaration sp decl specs src).children, ∀ s,
      KeepsForest (visit c s) s := fun c hc =>
    (ih.child hn hc).visit
  rw [visit.eq_def]
  cases decl with
  | some d =>
    exact KeepsForest.bind (hsub d (by simp [children]) scope) fun _ => markExported_keeps d
  | none =>
    cases src with
    | some _ => exact KeepsForest.pure _
    | none =>
      -- each local name exported is a reference, and its binding is marked exported
      refine KeepsForest.forM fun spec _ => ?_
      cases spec
      case exportSpecifier sp' l e =>
        refine KeepsForest.bind (addReference_keeps _ _ _ _) fun key => ?_
        cases key with
        | none => exact KeepsForest.pure _
        | some key => exact updateBinding_keeps _ fun _ => by exact ⟨rfl, rfl, rfl⟩
      all_goals exact KeepsForest.pure _

theorem switchStatement_keeps {sp : Span} {disc : Node} {cases : List Node}
    (ih : KeepsBelow (switchStatement sp disc cases))
    (hn : (switchStatement sp disc cases).ProgramFree) (scope : Nat) :
    KeepsForest (visit (switchStatement sp disc cases) scope) scope := by
  have hsub : ∀ c ∈ (switchStatement sp disc cases).children, ∀ s,
      KeepsForest (visit c s) s := fun c hc =>
    (ih.child hn hc).visit
  rw [visit.eq_def]
  refine KeepsForest.bind (hsub disc (by simp [children]) scope) fun _ => ?_
  refine addScope_bind_keeps fun s => ?_
  refine KeepsForest.bind (KeepsForest.forM fun c _ => ?_) fun _ =>
    KeepsForest.forM_attach fun c hc => ?_
  · -- the cases' declarations are hoisted into the switch's scope
    split
    · exact hoistLexical_keeps _ s
    · exact KeepsForest.pure _
  · have hcc : c ∈ (switchStatement sp disc cases).children := by simp [children, hc]
    have ihc := ih.below hcc
    have hfc := hn.child hcc
    cases c
    case switchCase sp' test cons =>
      exact KeepsForest.bind (visitOption_keeps fun t ht =>
          (ihc.child hfc (c := t) (by simp [children, Option.mem_def.1 ht])).visit s)
        fun _ => visitAll_keeps fun st hst =>
          (ihc.child hfc (c := st) (by simp [children, hst])).visit s
    all_goals exact KeepsForest.pure _

theorem forStatement_keeps {sp : Span} {init : Option Node} {test : Option Node}
    {update : Option Node} {body : Node} (ih : KeepsBelow (forStatement sp init test update body))
    (hn : (forStatement sp init test update body).ProgramFree) (scope : Nat) :
    KeepsForest (visit (forStatement sp init test update body) scope) scope := by
  have hsub : ∀ c ∈ (forStatement sp init test update body).children, ∀ s,
      KeepsForest (visit c s) s := fun c hc =>
    (ih.child hn hc).visit
  rw [visit.eq_def]
  have hopt : ∀ o : Option Node,
      (∀ c ∈ o, c ∈ (forStatement sp init test update body).children) →
      ∀ s, KeepsForest (visitOption o s) s := fun o ho s =>
    visitOption_keeps fun c hc => hsub c (ho c hc) s
  have htail : ∀ s, KeepsForest
      (do visitOption init s; visitOption test s; visitOption update s; visit body s) s :=
    fun s => KeepsForest.bind (hopt init (fun c hc => by simp [children, Option.mem_def.1 hc]) s)
      fun _ => KeepsForest.bind (hopt test (fun c hc => by simp [children, Option.mem_def.1 hc]) s)
      fun _ => KeepsForest.bind
        (hopt update (fun c hc => by simp [children, Option.mem_def.1 hc]) s)
      fun _ => hsub body (by simp [children]) s
  -- the head opens a scope of its own for a lexical declaration
  dsimp only
  split
  · split
    · exact addScope_bind_keeps fun s => KeepsForest.bind (hoistLexical_keeps _ s) fun _ =>
        KeepsForest.pure_bind (htail s)
    · exact KeepsForest.pure_bind (htail scope)
  · exact KeepsForest.pure_bind (htail scope)

/-- A `for-in` and a `for-of` loop are walked alike. -/
theorem forInOf_keeps {sp : Span} {l r b loop : Node}
    (hloop : loop = forInStatement sp l r b ∨ loop = forOfStatement sp l r b) (ih : KeepsBelow loop)
    (hn : loop.ProgramFree) (scope : Nat) :
    KeepsForest (visit loop scope) scope := by
  have hsub : ∀ c ∈ loop.children, ∀ s, KeepsForest (visit c s) s := fun c hc =>
    (ih.child hn hc).visit
  rcases hloop with rfl | rfl
  all_goals
    rw [visit.eq_def]
    refine KeepsForest.bind (hsub r (by simp [children]) scope) fun _ => ?_
    have hb : ∀ s, KeepsForest (visit b s) s := hsub b (by simp [children])
    have hl := ih.child hn (c := l) (by simp [children])
    have ihl := ih.below (c := l) (by simp [children])
    have hfl := hn.child (c := l) (by simp [children])
    cases l
    case variableDeclaration sp' ds kind =>
      dsimp only
      split
      refine addScope_bind_keeps fun s => KeepsForest.bind (hoistLexical_keeps _ s) fun _ =>
        KeepsForest.pure_bind (KeepsForest.bind ?_ fun _ => hb s)
      rotate_left
      refine KeepsForest.pure_bind (KeepsForest.bind ?_ fun _ => hb scope)
      -- either way, each declarator's names are given their values and its pattern's
      -- expressions are walked
      all_goals
        refine KeepsForest.forM_attach fun d hd => ?_
        have hdc : d ∈ (variableDeclaration sp' ds kind).children := hd
        have hfd := hfl.child hdc
        cases d
        case variableDeclarator sp'' t init =>
          exact KeepsForest.bind (markInitialized_keeps t) fun _ =>
            ((ihl.below hdc).child hfd (c := t) (by simp [children])).patternExpressions _
        all_goals exact KeepsForest.pure _
    all_goals exact KeepsForest.bind (hl.target scope false) fun _ => hb scope

theorem visit_keeps_step {n : Node} (ih : KeepsBelow n) (hn : n.ProgramFree)
    (hf : ∀ s, KeepsForest (function n s) s) (scope : Nat) :
    KeepsForest (visit n scope) scope := by
  have hsub : ∀ c ∈ n.children, ∀ s, KeepsForest (visit c s) s := fun c hc =>
    (ih.child hn hc).visit
  cases n
  case variableDeclaration => exact variableDeclaration_keeps ih hn scope
  case classDeclaration => exact classDeclaration_keeps ih hn scope
  case classExpression => exact classExpression_keeps ih hn scope
  case catchClause => exact catchClause_keeps ih hn scope
  case exportNamedDeclaration => exact exportNamedDeclaration_keeps ih hn scope
  case switchStatement => exact switchStatement_keeps ih hn scope
  case forStatement => exact forStatement_keeps ih hn scope
  case forInStatement => exact forInOf_keeps (.inl rfl) ih hn scope
  case forOfStatement => exact forInOf_keeps (.inr rfl) ih hn scope
  all_goals rw [visit.eq_def]
  case program => exact absurd hn.isProgram (by simp [isProgram])
  case identifier sp name =>
    exact KeepsForest.bind (addReference_keeps _ _ _ _) fun _ => KeepsForest.pure _
  case functionDeclaration sp ident ps b g a =>
    cases ident with
    | none => exact hf scope
    | some i =>
      refine KeepsForest.get_bind fun a => ?_
      split
      · exact KeepsForest.bind (declare_keeps_unit _ _ _) (fun _ => hf scope) a
      · exact hf scope a
  case functionExpression sp ident ps b g a =>
    cases ident with
    | none => exact hf scope
    | some i =>
      -- the name has a scope of its own, which the function's scope opens in
      exact addScope_bind_keeps fun m =>
        KeepsForest.bind (declare_keeps_unit _ _ _) fun _ => hf m
  case arrowFunctionExpression => exact hf scope
  case blockStatement sp body =>
    exact addScope_bind_keeps fun m =>
      hoistLexical_visitAll_keeps fun st h => hsub st h m
  case staticBlock sp body =>
    exact addScope_bind_keeps fun m => KeepsForest.bind (hoistVars_keeps _ m) fun _ =>
      hoistLexical_visitAll_keeps fun st h => hsub st h m
  case assignmentExpression sp op l r =>
    exact KeepsForest.bind ((ih.child hn (c := l) (by simp [children])).target scope _)
      fun _ => hsub r (by simp [children]) scope
  case memberExpression sp o p computed opt =>
    refine KeepsForest.bind (hsub o (by simp [children]) scope) fun _ => ?_
    cases computed
    · exact KeepsForest.pure _
    · exact hsub p (by simp [children]) scope
  case property sp k v kind computed method shorthand =>
    have hv := hsub v (by simp [children]) scope
    cases computed
    · exact hv
    · exact KeepsForest.bind (hsub k (by simp [children]) scope) fun _ => hv
  case methodDefinition sp k computed v kind static =>
    have hv := hsub v (by simp [children]) scope
    cases computed
    · exact hv
    · exact KeepsForest.bind (hsub k (by simp [children]) scope) fun _ => hv
  case propertyDefinition sp k computed v static =>
    have hv : KeepsForest (visitOption v scope) scope :=
      visitOption_keeps fun c hc => hsub c (by simp [children]; exact Or.inr hc) scope
    cases computed
    · exact hv
    · exact KeepsForest.bind (hsub k (by simp [children]) scope) fun _ => hv
  case privateIdentifier | breakStatement | continueStatement | metaProperty
      | importDeclaration | exportAllDeclaration => exact KeepsForest.pure _
  case labeledStatement sp l body => exact hsub body (by simp [children]) scope
  case exportDefaultDeclaration sp d =>
    exact KeepsForest.bind (hsub d (by simp [children]) scope) fun _ => markExported_keeps d
  case updateExpression sp op a pre =>
    have hva := hsub a (by simp [children]) scope
    cases a
    case identifier sp' name =>
      exact KeepsForest.bind (addReference_keeps _ _ _ _) fun _ => KeepsForest.pure _
    all_goals exact hva
  all_goals exact KeepsForest.forM_attach fun c hc => hsub c hc scope

/-- All four walks of the builder keep a forest one, on every node that holds no
program. -/
theorem keepsOn (n : Node) (hn : n.ProgramFree) : KeepsOn n := by
  have ih : KeepsBelow n := fun c _ hc => keepsOn c hc
  have hf := function_keeps_step ih hn
  have hv := visit_keeps_step ih hn hf
  exact ⟨hv, hf, patternExpressions_keeps_step ih hn, target_keeps_step ih hn hv⟩
termination_by sizeOf n

end ScopeBuilder

/-! ## The arena of a program -/

/-- The module scope of `node` alone is a forest. -/
theorem Arena.forest_moduleScope (node : Node) :
    ({ scopes := #[⟨0, .module, node, none, 0, [], []⟩] } : Arena).Forest := by
  let sc : Scope := ⟨0, .module, node, none, 0, [], []⟩
  have hone : ∀ j t, ({ scopes := #[sc] } : Arena).scope? j = some t → j = 0 ∧ t = sc := by
    intro j t h
    cases j with
    | zero =>
      simp only [Arena.scope?, List.getElem?_toArray, List.getElem?_cons_zero,
        Option.some.injEq] at h
      exact ⟨rfl, h.symm⟩
    | succ j => simp [Arena.scope?] at h
  refine ⟨⟨sc, rfl, rfl, rfl⟩, fun j t ht hj => absurd (hone j t ht).1 hj, fun p t ht => ?_,
    fun j t ht _ => ?_, fun j t p pt ht htp _ _ => ?_, fun j t ht => ?_⟩
  all_goals obtain ⟨rfl, rfl⟩ := hone _ _ ht
  · rfl
  · rfl
  · cases htp
  · exact ⟨List.nodup_nil, fun _ hb => by cases hb⟩

/-- The walk of a program opens the module scope in the empty arena, then hoists and walks
the program's statements in it. -/
theorem analyzeScopes_program (sp : Span) (body : List Node) (isModule : Bool) :
    analyzeScopes (.program sp body isModule) =
      (Id.run ((do
        ScopeBuilder.hoistVars (.program sp body isModule) 0
        ScopeBuilder.hoistLexical body 0
        ScopeBuilder.visitAll body 0 : ScopeBuilder.ScopeM Unit).run
          { scopes := #[⟨0, .module, .program sp body isModule, none, 0, [], []⟩] })).2 := by
  rw [analyzeScopes, ScopeBuilder.visit.eq_def]
  rfl

/-- The arena of a program that holds no other program is a forest. -/
theorem analyzeScopes_isForest {sp : Span} {body : List Node} {isModule : Bool}
    (hbody : ∀ c ∈ body, c.ProgramFree) : (analyzeScopes (.program sp body isModule)).Forest := by
  open ScopeBuilder in
  have hrest : KeepsForest (do
      hoistVars (.program sp body isModule) 0
      hoistLexical body 0
      visitAll body 0 : ScopeM Unit) 0 :=
    KeepsForest.bind (hoistVars_keeps _ 0) fun _ =>
      hoistLexical_visitAll_keeps fun c hc => (keepsOn c (hbody c hc)).visit 0
  rw [analyzeScopes_program]
  exact (hrest _ (Arena.forest_moduleScope _) Nat.zero_lt_one).1

/-- The scopes of a program that holds no other program form a forest rooted at the module
scope; the function scope of each scope is the first module or function scope up its chain,
and each of its bindings is the one its index and name look up; and a name resolves from
scope `i` within `i + 1` steps up the chain. -/
theorem analyzeScopes_forest {P : Node} (hP : P.isProgram = true)
    (hnest : ∀ c ∈ P.children, c.ProgramFree) :
    (analyzeScopes P).Forest ∧
      (∀ i s, (analyzeScopes P).scope? i = some s →
        ((analyzeScopes P).chain i).find? (analyzeScopes P).ownsFunction = some s.functionScope ∧
          ∀ b ∈ s.bindings, (analyzeScopes P).binding? (i, b.name) = some b) ∧
      ∀ name i fuel, i + 1 ≤ fuel →
        (analyzeScopes P).resolveFrom name fuel (some i) =
          (analyzeScopes P).resolveFrom name (i + 1) (some i) := by
  cases P
  case program sp body isModule =>
    have h : (analyzeScopes (.program sp body isModule)).Forest := analyzeScopes_isForest hnest
    exact ⟨h, fun i s hs => ⟨h.find?_chain hs, fun b hb => h.binding?_eq hs hb⟩,
      fun name i fuel hfuel => h.resolveFrom_eq name hfuel⟩
  all_goals simp [Node.isProgram] at hP

/-- `{ x }` read as a program. -/
def blockProgram : Node :=
  .program (.onFirstLine 0 5) [.blockStatement (.onFirstLine 0 5) [.identifier (.onFirstLine 2 3) "x"]]
    false

theorem blockProgram_forest : blockProgram.isProgram = true ∧
    (∀ c ∈ blockProgram.children, c.ProgramFree) ∧ (analyzeScopes blockProgram).Forest := by
  have hfree : ∀ c ∈ blockProgram.children, c.ProgramFree := by decide +kernel
  exact ⟨rfl, hfree, (analyzeScopes_forest rfl hfree).1⟩

end ScriptGate
