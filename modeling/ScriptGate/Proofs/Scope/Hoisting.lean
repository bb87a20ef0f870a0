import Mathlib.Data.List.Nodup
import ScriptGate.Proofs.Scope.Declarations

/-!
# Every declaration lands in the scope it belongs in

`ScopeBuilder.landsOn` runs the four walks of the builder against `Node.declarationsIn`: each
walk of a node keeps every declaration the arena records in a scope it belongs in, and makes the
declarations the node's rules give it (`ScopeBuilder.Lands`).  The proof is a well-founded
induction over the tree, with one case per handler of `ScopeBuilder.visit` and its three sibling
walks, on top of the primitive steps of `Proofs.Scope.Declarations`.

What hoisting did before the walk reaches a node is what the node may assume
(`Node.assumed`): a declaration of a `var` that hoisting reached, or of a statement its list
hoisted, is already recorded, so the walk's fallback declares it nowhere else.

So in a program whose declaring identifiers start at distinct places, each identifier is
recorded as declaring its own name, only ever in a scope of the node and kind it belongs in,
which holds its binding (`declarations_land_in_their_scopes`).  The local names of an import
belong to the statement list that holds it, like `let`: an import inside a block declares into
the block (`importInBlock_declares_in_block`).
-/

namespace ScriptGate

namespace Node

/-- The declarations hoisting made before the walk reaches `n`, by where their identifiers
start: the `var` declarations at and below `n` when hoisting reached it, and `n`'s own when its
statement list hoisted it. -/
def assumed (hoisting hoisted : Bool) (n : Node) : List Nat :=
  ((if hoisting then n.varsReached else []) ++
    (if hoisted then n.lexicalIdentifiers else [])).flatMap starts

/-- Hoisting that reaches a node which is neither a function nor a class reaches its
children. -/
theorem varsReached_subset {n c : Node} (hc : c ∈ n.children)
    (hn : (n.isFunction || ScopeBuilder.isClass n) = false) : c.varsReached ⊆ n.varsReached := by
  intro x hx
  rw [varsReached, hn, if_neg Bool.false_ne_true, hoistedVars_eq]
  exact List.mem_append_right _ (List.mem_flatMap.2 ⟨c, hc, hx⟩)

theorem assumed_child {n c : Node} (hc : c ∈ n.children)
    (hn : (n.isFunction || ScopeBuilder.isClass n) = false) (hoisting hoisted : Bool) :
    c.assumed hoisting false ⊆ n.assumed hoisting hoisted := by
  intro o ho
  cases hoisting
  · simp [assumed] at ho
  · simp only [assumed, if_true, Bool.false_eq_true, if_false, List.append_nil,
      List.flatMap_append, List.mem_append] at ho ⊢
    obtain ⟨x, hx, hox⟩ := List.mem_flatMap.1 ho
    exact .inl (List.mem_flatMap.2 ⟨x, varsReached_subset hc hn hx, hox⟩)

@[simp] theorem assumed_false_false (n : Node) : n.assumed false false = [] := by
  simp [assumed]

/-- The name of a declaration its list hoisted is assumed declared. -/
theorem starts_subset_assumed_of_lexical {n x : Node} (hx : x ∈ n.lexicalIdentifiers)
    (hoisting : Bool) : x.starts ⊆ n.assumed hoisting true := by
  intro o ho
  simp only [assumed, if_true, List.flatMap_append, List.mem_append]
  exact .inr (List.mem_flatMap.2 ⟨x, hx, ho⟩)

/-- The names a declaration of a list introduces, as the list's hoisting recorded them. -/
theorem starts_subset_of_subset {ys xs : List Node} (h : ys ⊆ xs) (home : Node × ScopeKind) :
    ys.flatMap starts ⊆ (xs.flatMap (declaredIn home)).map Declaration.start := by
  intro o ho
  obtain ⟨x, hx, hox⟩ := List.mem_flatMap.1 ho
  simp only [List.map_flatMap, map_start_declaredIn]
  exact List.mem_flatMap.2 ⟨x, h hx, hox⟩

/-- A statement assumes what its list's hoisting made: the `var` declarations hoisting reached
at it, and its own lexical declaration. -/
theorem assumed_unwrapExport_subset (st : Node) (hoisting : Bool) :
    st.unwrapExport.assumed hoisting true ⊆
      st.assumed hoisting false ++ st.unwrapExport.lexicalIdentifiers.flatMap starts := by
  have hvars : st.unwrapExport.varsReached ⊆ st.varsReached := by
    cases st
    case exportNamedDeclaration sp d specs src =>
      cases d with
      | none => exact fun _ h => h
      | some d => exact varsReached_subset (c := d) (by simp [children]) rfl
    case exportDefaultDeclaration sp d => exact varsReached_subset (c := d) (by simp [children]) rfl
    all_goals exact fun _ h => h
  intro o ho
  simp only [assumed, if_true, Bool.false_eq_true, if_false, List.append_nil, List.flatMap_append,
    List.mem_append] at ho ⊢
  rcases ho with ho | ho
  · cases hoisting
    · simp at ho
    · obtain ⟨x, hx, hox⟩ := List.mem_flatMap.1 ho
      exact .inl (List.mem_flatMap.2 ⟨x, hvars hx, hox⟩)
  · exact .inr ho

/-- The names a declarator of a declaration introduces are assumed declared where hoisting
declared them: by hoisting a `var`, or by the list that hoisted a `let` or `const`. -/
theorem declarator_starts_subset_assumed {sp sp' : Span} {ds : List Node} {kind : DeclarationKind}
    {t x : Node} {init : Option Node} (hd : variableDeclarator sp' t init ∈ ds)
    (hx : x ∈ ScopeBuilder.patternIdentifiers t) {hoisting hoisted : Bool}
    (h : (if kind = .var then hoisting else hoisted) = true) :
    x.starts ⊆ (variableDeclaration sp ds kind).assumed hoisting hoisted := by
  have hmem : x ∈ ds.flatMap declaratorIdentifiers := List.mem_flatMap.2 ⟨_, hd, hx⟩
  intro o ho
  simp only [assumed, List.flatMap_append, List.mem_append]
  by_cases hk : kind = .var
  · subst hk
    simp only [if_true] at h
    subst h
    refine .inl (List.mem_flatMap.2 ⟨x, ?_, ho⟩)
    simp [varsReached, isFunction, ScopeBuilder.isClass, varIdentifiers, hmem]
  · simp only [hk, if_false] at h
    subst h
    refine .inr (List.mem_flatMap.2 ⟨x, ?_, ho⟩)
    simp [lexicalIdentifiers, hk, hmem]

@[simp] theorem flatMap_attach_declarationsIn (home : Node × ScopeKind) (hoisting hoisted : Bool)
    (xs : List Node) :
    (xs.attach.flatMap fun x => x.1.declarationsIn home hoisting hoisted) =
      xs.flatMap (declarationsIn home hoisting hoisted) := by
  rw [List.flatMap_subtype (fun _ _ => rfl), List.unattach_attach]

/-- Holes aside, an array declares what its elements declare. -/
theorem declarationsIn_arrayPattern (home : Node × ScopeKind) (hoisting hoisted : Bool) (sp : Span)
    (es : List (Option Node)) :
    (arrayPattern sp es).declarationsIn home hoisting hoisted =
      es.flatMap (optionDeclarations home hoisting false) := by
  simp only [declarationsIn, children, flatMap_attach_declarationsIn]
  induction es with
  | nil => rfl
  | cons e es ih =>
    cases e with
    | none => simpa [optionDeclarations] using ih
    | some e => simpa [optionDeclarations] using ih

theorem lexicalHead_eq_false {init : Option Node}
    (h : ∀ sp ds kind, init = some (variableDeclaration sp ds kind) → False) :
    lexicalHead init = false := by
  unfold lexicalHead
  split
  · exact absurd rfl (h _ _ _)
  · rfl

end Node

namespace ScopeBuilder

open Node Arena

variable {U : List Declaration}

/-! ## The fallback declaration of a name -/

/-- The walk found no record of the name of a function or class declaration: unless its list
hoisted it, the name is declared where the walk stands, and if its list did, the name is no
identifier and declares nothing. -/
theorem Settles.fresh {α : Type} {m : ScopeM α} {j : Nat} {home : Node × ScopeKind}
    {pre : List Nat} {x : Node} {D : List Declaration} {hoisted : Bool} {a : Arena}
    (hm : Lands U m j home pre (x.declaredIn home ++ D)) (hopen : a.Opens j home)
    (hnone : (a.declaredAt x.span.start.offset).isNone = true)
    (hx : hoisted = true → x.starts ⊆ pre) :
    Settles U m pre ((if hoisted then [] else x.declaredIn home) ++ D) a := by
  intro hD h hpre
  cases hoisted
  · exact hm a hopen hD h hpre
  · have hnil : x.declaredIn home = [] := by
      cases x
      case identifier sp name =>
        obtain ⟨key, hkey⟩ := Option.isSome_iff_exists.1
          (declaredAt_isSome (hpre sp.start.offset (hx rfl (by simp [starts]))))
        simp [Node.span, hkey] at hnone
      all_goals rfl
    rw [hnil] at hm
    exact hm a hopen hD h hpre

/-- The walk found a record of the name of a function or class declaration: it is declared
already, and stays so. -/
theorem Settles.recorded {α : Type} {m : ScopeM α} {j : Nat} {home : Node × ScopeKind}
    {pre : List Nat} {x : Node} {D : List Declaration} {hoisted : Bool} {a : Arena}
    (hm : Lands U m j home pre D) (hopen : a.Opens j home)
    (hsome : ¬(a.declaredAt x.span.start.offset).isNone = true) :
    Settles U m pre ((if hoisted then [] else x.declaredIn home) ++ D) a := by
  intro hD h hpre
  obtain ⟨h₁, hg, hd⟩ := hm a hopen (fun d hd => hD (List.mem_append_right _ hd)) h hpre
  have hne : a.declaredAt x.span.start.offset ≠ none := fun hnone => hsome (by simp [hnone])
  obtain ⟨key, hkey⟩ := Option.ne_none_iff_exists'.1 hne
  refine ⟨h₁, hg, fun d hd' => ?_⟩
  rcases List.mem_append.1 hd' with hx | hd'
  · have hx : d ∈ x.declaredIn home := by
      cases hoisted
      · exact hx
      · simp at hx
    rw [start_of_mem_declaredIn hx]
    exact hg.declares ⟨key, mem_declared_of_declaredAt hkey⟩
  · exact hd d hd'

/-! ## Each walk makes the declarations of its node -/

/-- The walk of `n`, in a scope opened by `home` and with what hoisting did before it, keeps
declarations at home and makes the declarations of `n`. -/
def VisitLands (U : List Declaration) (n : Node) : Prop :=
  ∀ s home hoisting hoisted,
    Lands U (visit n s) s home (n.assumed hoisting hoisted) (n.declarationsIn home hoisting hoisted)

/-- The four walks of the builder on a node, each keeping declarations at home and making the
node's: `visit` with what hoisting did before it, `function` the declarations of a function,
`patternExpressions` those in a pattern's defaults and keys, and `target` those of an
assignment target, which are the same as if it were walked. -/
structure LandsOn (U : List Declaration) (n : Node) : Prop where
  visit : VisitLands U n
  function : ∀ s home, Lands U (function n s) s home [] n.functionDeclarations
  patternExpressions : ∀ s home hoisting,
    Lands U (patternExpressions n s) s home (n.assumed hoisting false)
      (n.patternDeclarations home hoisting)
  target : ∀ s home hoisting read,
    Lands U (target n s read) s home (n.assumed hoisting false)
      (n.declarationsIn home hoisting false)

/-- Every node smaller than `n` is walked as `LandsOn` says. -/
def LandsBelow (U : List Declaration) (n : Node) : Prop := ∀ c, sizeOf c < sizeOf n → LandsOn U c

theorem LandsBelow.child {n c : Node} (ih : LandsBelow U n) (hc : c ∈ n.children) :
    LandsOn U c :=
  ih c (sizeOf_lt_of_mem_children hc)

theorem LandsBelow.below {n c : Node} (ih : LandsBelow U n) (hc : c ∈ n.children) :
    LandsBelow U c := fun d hd => ih d (Nat.lt_trans hd (sizeOf_lt_of_mem_children hc))

/-- A child of a node that is neither a function nor a class, walked with what hoisting did for
the node. -/
theorem LandsBelow.visit_child {n c : Node} (ih : LandsBelow U n) (hc : c ∈ n.children)
    (hn : (n.isFunction || isClass n) = false) (s : Nat) (home : Node × ScopeKind)
    (hoisting hoisted : Bool) :
    Lands U (visit c s) s home (n.assumed hoisting hoisted) (c.declarationsIn home hoisting false) :=
  ((ih.child hc).visit s home hoisting false).mono (assumed_child hc hn hoisting hoisted)
    fun _ => Iff.rfl

theorem LandsBelow.target_child {n c : Node} (ih : LandsBelow U n) (hc : c ∈ n.children)
    (hn : (n.isFunction || isClass n) = false) (s : Nat) (home : Node × ScopeKind)
    (hoisting hoisted read : Bool) :
    Lands U (target c s read) s home (n.assumed hoisting hoisted)
      (c.declarationsIn home hoisting false) :=
  ((ih.child hc).target s home hoisting read).mono (assumed_child hc hn hoisting hoisted)
    fun _ => Iff.rfl

theorem LandsBelow.patternExpressions_child {n c : Node} (ih : LandsBelow U n)
    (hc : c ∈ n.children) (hn : (n.isFunction || isClass n) = false) (s : Nat)
    (home : Node × ScopeKind) (hoisting hoisted : Bool) :
    Lands U (patternExpressions c s) s home (n.assumed hoisting hoisted)
      (c.patternDeclarations home hoisting) :=
  ((ih.child hc).patternExpressions s home hoisting).mono (assumed_child hc hn hoisting hoisted)
    fun _ => Iff.rfl

theorem visitOption_lands {o : Option Node} {s : Nat} {home : Node × ScopeKind} {pre : List Nat}
    {hoisting hoisted : Bool}
    (h : ∀ c ∈ o, Lands U (visit c s) s home pre (c.declarationsIn home hoisting hoisted)) :
    Lands U (visitOption o s) s home pre (optionDeclarations home hoisting hoisted o) := by
  cases o with
  | none =>
    rw [visitOption, optionDeclarations]
    exact Lands.pure _
  | some c =>
    rw [visitOption, optionDeclarations]
    exact h c rfl

/-- A statement of a list, whose own declaration the list hoisted: an export is walked as the
declaration it stands for. -/
theorem statement_lands {st : Node} (hst : LandsOn U st) (ih : LandsBelow U st) (s : Nat)
    (home : Node × ScopeKind) (hoisting : Bool) :
    Lands U (visit st s) s home (st.unwrapExport.assumed hoisting true)
      (declarationsIn home hoisting true st.unwrapExport) := by
  cases st
  case exportNamedDeclaration sp d specs src =>
    cases d with
    | none => exact hst.visit s home hoisting true
    | some d =>
      rw [visit.eq_def]
      exact Lands.bind_nil ((ih.child (c := d) (by simp [children])).visit s home hoisting true)
        fun _ => markExported_lands d
  case exportDefaultDeclaration sp d =>
    rw [visit.eq_def]
    exact Lands.bind_nil ((ih.child (c := d) (by simp [children])).visit s home hoisting true)
      fun _ => markExported_lands d
  all_goals exact hst.visit s home hoisting true

/-- The statements of a list, walked in order, each assuming what hoisting made for it: the
`var` declarations it reached there and the statement's own declaration. -/
theorem statements_lands {stmts : List Node} (h : ∀ st ∈ stmts, LandsOn U st ∧ LandsBelow U st)
    (s : Nat) (home : Node × ScopeKind) (hoisting : Bool) {pre : List Nat}
    (hvars : ∀ st ∈ stmts, st.assumed hoisting false ⊆ pre)
    (hlex : ∀ st ∈ stmts, st.unwrapExport.lexicalIdentifiers.flatMap starts ⊆ pre) :
    Lands U (visitAll stmts s) s home pre (statementDeclarations home hoisting stmts) := by
  rw [visitAll, statementDeclarations]
  refine Lands.forM fun st _ => ?_
  obtain ⟨st, hst⟩ := st
  exact (statement_lands (h st hst).1 (h st hst).2 s home hoisting).mono
    (List.Subset.trans (assumed_unwrapExport_subset st hoisting)
      (List.append_subset.2 ⟨hvars st hst, hlex st hst⟩)) fun _ => Iff.rfl

/-- A statement list: its lexical declarations hoisted into scope `j`, then its statements
walked there. -/
theorem list_lands {stmts : List Node} (h : ∀ st ∈ stmts, LandsOn U st ∧ LandsBelow U st)
    (j : Nat) (home : Node × ScopeKind) (hoisting : Bool) {pre : List Nat}
    (hvars : ∀ st ∈ stmts, st.assumed hoisting false ⊆ pre) :
    Lands U (do hoistLexical stmts j; visitAll stmts j) j home pre
      ((listIdentifiers stmts).flatMap (declaredIn home) ++
        statementDeclarations home hoisting stmts) :=
  Lands.bind (hoistLexical_lands stmts j) fun _ =>
    statements_lands h j home hoisting
      (fun st hst => List.Subset.trans (hvars st hst) (List.subset_append_left _ _))
      fun st hst => List.Subset.trans (starts_subset_of_subset
        (fun _ hx => (List.mem_flatMap.2 ⟨st, hst, hx⟩ : _ ∈ listIdentifiers stmts)) home)
          (List.subset_append_right _ _)

/-- A body whose `var` declarations are hoisted into scope `j` with its lexical ones, then
walked there: a program, a static block or the block of a function. -/
theorem hoistedBody_lands {owner : Node} {stmts : List Node} (howner : owner.children = stmts)
    (h : ∀ st ∈ stmts, LandsOn U st ∧ LandsBelow U st) (j : Nat) (home : Node × ScopeKind)
    {pre : List Nat} :
    Lands U (do hoistVars owner j; hoistLexical stmts j; visitAll stmts j) j home pre
      ((owner.hoistedVars ++ listIdentifiers stmts).flatMap (declaredIn home) ++
        statementDeclarations home true stmts) := by
  refine (Lands.bind (hoistVars_lands owner j) fun _ =>
    list_lands h j home true fun st hst => ?_).mono (fun _ h => h) (by simp)
  -- what hoisting reached at a statement is among what it reached in the body
  refine List.Subset.trans (starts_subset_of_subset (fun _ hx => ?_) home)
    (List.subset_append_right _ _)
  simp only [if_true, Bool.false_eq_true, if_false, List.append_nil] at hx
  rw [hoistedVars_eq, howner]
  exact List.mem_flatMap.2 ⟨st, hst, hx⟩

/-- A loop over the members of a list, each round with its member and proof of membership. -/
theorem Lands.forM_members {β : Type} {xs : List β} {f : {x // x ∈ xs} → ScopeM PUnit}
    {L : {x // x ∈ xs} → List Declaration} {i : Nat} {home : Node × ScopeKind} {pre : List Nat}
    (h : ∀ x (hx : x ∈ xs), Lands U (f ⟨x, hx⟩) i home pre (L ⟨x, hx⟩)) :
    Lands U (xs.attach.forM f) i home pre (xs.attach.flatMap L) :=
  Lands.forM fun ⟨x, hx⟩ _ => h x hx

/-- A node walked with nothing hoisted for it may assume anything. -/
theorem LandsOn.visit_fresh {n : Node} (h : LandsOn U n) (s : Nat) (home : Node × ScopeKind)
    (pre : List Nat) :
    Lands U (ScopeBuilder.visit n s) s home pre (n.declarationsIn home false false) :=
  (h.visit s home false false).mono (by simp) fun _ => Iff.rfl

/-! ## One step of each walk -/

theorem function_lands_step {n : Node} (ih : LandsBelow U n) (s : Nat) (home : Node × ScopeKind) :
    Lands U (function n s) s home [] n.functionDeclarations := by
  rw [function.eq_def, functionDeclarations.eq_def]
  cases n
  case functionDeclaration sp i ps b g a | functionExpression sp i ps b g a
      | arrowFunctionExpression sp ps b g a =>
    dsimp only
    refine addScope_bind fun f => Lands.seq (Lands.forM fun ⟨p, hp⟩ _ => ?_) fun _ => ?_
    · -- each parameter declares its names in the function's scope, then walks its defaults
      exact Lands.seq (Lands.forM fun _ _ => declareInitialized_lands) fun _ =>
        ((ih.child (c := p) (by simp [children, hp])).patternExpressions f _ false).mono
          (by simp) fun _ => Iff.rfl
    · have ihb := ih.below (c := b) (by simp [children])
      cases b
      case blockStatement sp' stmts =>
        -- a block body is hoisted into the function's scope
        exact hoistedBody_lands rfl (fun st hst => ⟨ihb.child hst, ihb.below hst⟩) f _
      all_goals exact (ih.child (by simp [children])).visit_fresh f _ _
  all_goals exact Lands.pure _

theorem patternExpressions_lands_step {p : Node} (ih : LandsBelow U p) (s : Nat)
    (home : Node × ScopeKind) (hoisting : Bool) :
    Lands U (patternExpressions p s) s home (p.assumed hoisting false)
      (p.patternDeclarations home hoisting) := by
  rw [patternExpressions.eq_def, patternDeclarations.eq_def]
  cases p
  case assignmentPattern sp l r =>
    exact Lands.seq
      (ih.patternExpressions_child (c := l) (by simp [children]) rfl s home hoisting false)
      fun _ => ih.visit_child (c := r) (by simp [children]) rfl s home hoisting false
  case objectPattern sp props =>
    refine Lands.forM_members fun q hq => ?_
    have hqc : q ∈ (objectPattern sp props).children := hq
    have hup := assumed_child hqc rfl hoisting false
    cases q
    case property sp' k v kind computed method shorthand =>
      -- a property walks its computed key and its value's pattern
      dsimp only
      have hv := ((ih.below hqc).patternExpressions_child (c := v) (by simp [children]) rfl s home
        hoisting false).mono hup fun _ => Iff.rfl
      cases computed
      · exact hv
      · exact Lands.seq (((ih.below hqc).visit_child (c := k) (by simp [children]) rfl s home
          hoisting false).mono hup fun _ => Iff.rfl) fun _ => hv
    all_goals exact ih.patternExpressions_child hqc rfl s home hoisting false
  case arrayPattern sp es =>
    refine Lands.forM_members fun o ho => ?_
    cases o with
    | none => exact Lands.pure _
    | some e =>
      dsimp only
      exact ih.patternExpressions_child (c := e) (by simpa [children] using ho) rfl s home
        hoisting false
  case restElement sp a =>
    exact ih.patternExpressions_child (c := a) (by simp [children]) rfl s home hoisting false
  all_goals exact Lands.pure _

theorem target_lands_step {t : Node} (ih : LandsBelow U t)
    (hv : ∀ s home hoisting, Lands U (visit t s) s home (t.assumed hoisting false)
      (t.declarationsIn home hoisting false))
    (s : Nat) (home : Node × ScopeKind) (hoisting read : Bool) :
    Lands U (target t s read) s home (t.assumed hoisting false)
      (t.declarationsIn home hoisting false) := by
  rw [target.eq_def]
  cases t
  case identifier sp name =>
    simp only [declarationsIn]
    exact Lands.bind_nil (addReference_lands _ _ _ _) fun _ => Lands.pure _
  case assignmentPattern sp l r =>
    simp only [declarationsIn, children, flatMap_attach_declarationsIn, List.flatMap_cons,
      List.flatMap_nil, List.append_nil]
    exact Lands.seq (ih.target_child (c := l) (by simp [children]) rfl s home hoisting false read)
      fun _ => ih.visit_child (c := r) (by simp [children]) rfl s home hoisting false
  case objectPattern sp props =>
    simp only [declarationsIn, children, flatMap_attach_declarationsIn]
    refine Lands.forM_attach fun q hq => ?_
    have hqc : q ∈ (objectPattern sp props).children := hq
    have hup := assumed_child hqc rfl hoisting false
    cases q
    case property sp' k v kind computed method shorthand =>
      simp only [declarationsIn]
      have hv' := ((ih.below hqc).target_child (c := v) (by simp [children]) rfl s home hoisting
        false read).mono hup fun _ => Iff.rfl
      cases computed
      · exact hv'
      · exact Lands.seq (((ih.below hqc).visit_child (c := k) (by simp [children]) rfl s home
          hoisting false).mono hup fun _ => Iff.rfl) fun _ => hv'
    all_goals exact ih.target_child hqc rfl s home hoisting false read
  case arrayPattern sp es =>
    rw [declarationsIn_arrayPattern]
    refine Lands.forM_attach fun o ho => ?_
    cases o with
    | none =>
      simp only [optionDeclarations]
      exact Lands.pure _
    | some e =>
      simp only [optionDeclarations]
      exact ih.target_child (c := e) (by simpa [children] using ho) rfl s home hoisting false read
  case restElement sp a =>
    simp only [declarationsIn, children, flatMap_attach_declarationsIn, List.flatMap_cons,
      List.flatMap_nil, List.append_nil]
    exact ih.target_child (c := a) (by simp [children]) rfl s home hoisting false read
  all_goals exact hv s home hoisting

/-- A program opens the module scope, hoists its `var` and lexical declarations into it and walks
its statements there; no scope needs to be open before it. -/
theorem program_settles {sp : Span} {body : List Node} {isModule : Bool}
    (h : ∀ st ∈ body, LandsOn U st ∧ LandsBelow U st) (s : Nat) (home : Node × ScopeKind)
    (hoisting hoisted : Bool) (pre : List Nat) (a : Arena) :
    Settles U (visit (program sp body isModule) s) pre
      ((program sp body isModule).declarationsIn home hoisting hoisted) a := by
  rw [visit.eq_def]
  simp only [declarationsIn]
  exact addScope_module_settles
    (fun m => hoistedBody_lands (show (program sp body isModule).children = body from rfl) h m _) a

/-! ## The handlers of `visit` -/

/-- A function declaration names itself where it stands, unless its list hoisted the name, and
then walks as a function. -/
theorem functionDeclaration_lands {sp : Span} {ident : Option Node} {ps : List Node} {b : Node}
    {g a : Bool} (hf : ∀ s home, Lands U (function (functionDeclaration sp ident ps b g a) s) s home []
      (functionDeclaration sp ident ps b g a).functionDeclarations) :
    VisitLands U (functionDeclaration sp ident ps b g a) := by
  intro s home hoisting hoisted
  have hfun : ∀ pre, Lands U (function (functionDeclaration sp ident ps b g a) s) s home pre
      (functionDeclaration sp ident ps b g a).functionDeclarations :=
    fun _ => (hf s home).mono (List.nil_subset _) fun _ => Iff.rfl
  rw [visit.eq_def]
  simp only [declarationsIn]
  cases ident with
  | none => exact (hfun _).mono (fun _ h => h) (by simp)
  | some i =>
    simp only [Option.toList_some, List.flatMap_cons, List.flatMap_nil, List.append_nil]
    -- the name is declared here unless its statement list hoisted it already
    refine Lands.get_bind fun ar hopen => ?_
    split
    case isTrue hnone =>
      exact Settles.fresh (Lands.bind declare_lands fun _ => hfun _) hopen hnone
        fun hh => by subst hh; exact starts_subset_assumed_of_lexical (List.mem_singleton_self i) _
    case isFalse hsome => exact Settles.recorded (hfun _) hopen hsome

/-- Each declarator declares its names where the declaration stands, unless hoisting declared
them already, then walks its pattern's expressions and its value. -/
theorem variableDeclaration_lands {sp : Span} {ds : List Node} {kind : DeclarationKind}
    (ih : LandsBelow U (variableDeclaration sp ds kind)) :
    VisitLands U (variableDeclaration sp ds kind) := by
  intro s home hoisting hoisted
  rw [visit.eq_def]
  simp only [declarationsIn]
  refine Lands.forM_members fun d hd => ?_
  have hdc : d ∈ (variableDeclaration sp ds kind).children := hd
  cases d
  case variableDeclarator sp' t init =>
    dsimp only
    have hup := assumed_child hdc rfl hoisting hoisted
    rw [List.append_assoc]
    refine Lands.seq ?_ fun _ => Lands.seq (((ih.below hdc).patternExpressions_child (c := t)
      (by simp [children]) rfl s home hoisting false).mono hup fun _ => Iff.rfl) fun _ => ?_
    · -- its names are declared here unless hoisting declared them already
      by_cases hh : (if kind = .var then hoisting else hoisted) = true
      · rw [if_pos hh]
        exact Lands.forM_nil fun x hx =>
          declareUnlessDeclared_lands_of_assumed (declarator_starts_subset_assumed hd hx hh)
      · rw [if_neg hh]
        exact Lands.forM fun _ _ => declareUnlessDeclared_lands
    · cases init with
      | none =>
        simp only [optionDeclarations]
        exact Lands.pure _
      | some v =>
        simp only [optionDeclarations]
        exact Lands.nil_bind (markInitialized_lands t) fun _ =>
          ((ih.below hdc).visit_child (c := v) (by simp [children]) rfl s home hoisting
            false).mono hup fun _ => Iff.rfl
  all_goals exact Lands.pure _

/-- An export of a declaration walks the declaration; an export of local names declares
nothing. -/
theorem exportNamedDeclaration_lands {sp : Span} {decl : Option Node} {specs : List Node}
    {src : Option Node} (ih : LandsBelow U (exportNamedDeclaration sp decl specs src)) :
    VisitLands U (exportNamedDeclaration sp decl specs src) := by
  intro s home hoisting hoisted
  rw [visit.eq_def]
  cases decl with
  | some d =>
    simp only [declarationsIn]
    exact Lands.bind_nil (ih.visit_child (c := d) (by simp [children]) rfl s home hoisting
      hoisted) fun _ => markExported_lands d
  | none =>
    simp only [declarationsIn]
    cases src with
    | some _ => exact Lands.pure _
    | none =>
      -- exporting local names only marks their bindings
      refine Lands.forM_nil fun spec _ => ?_
      cases spec
      case exportSpecifier sp' l e =>
        refine Lands.bind_nil (addReference_lands _ _ _ _) fun key => ?_
        cases key with
        | none => exact Lands.pure _
        | some key => exact updateBinding_lands _ fun _ => rfl
      all_goals exact Lands.pure _

/-- A class declaration names itself where it stands, unless its list hoisted the name; its
superclass is walked there and its body in the class's own scope. -/
theorem classDeclaration_lands {sp : Span} {ident sc : Option Node} {body : Node}
    (ih : LandsBelow U (classDeclaration sp ident sc body)) :
    VisitLands U (classDeclaration sp ident sc body) := by
  intro s home hoisting hoisted
  rw [visit.eq_def]
  simp only [declarationsIn, List.append_assoc]
  have hrest : ∀ pre, Lands U (do
      visitOption sc s
      let c ← addScope .classBody (classDeclaration sp ident sc body) (some s)
      visit body c) s home pre
      (optionDeclarations home false false sc ++
        body.declarationsIn (classDeclaration sp ident sc body, .classBody) false false) :=
    fun _ => Lands.seq (visitOption_lands fun c hc =>
        (ih.child (c := c) (by simp [children, Option.mem_def.1 hc])).visit_fresh s home _)
      fun _ => addScope_bind fun j => (ih.child (c := body) (by simp [children])).visit_fresh j _ _
  cases ident with
  | none => exact (hrest _).mono (fun _ h => h) (by simp)
  | some i =>
    simp only [Option.toList_some, List.flatMap_cons, List.flatMap_nil, List.append_nil]
    refine Lands.get_bind fun ar hopen => ?_
    split
    case isTrue hnone =>
      exact Settles.fresh (Lands.bind declare_lands fun _ => hrest _) hopen hnone
        fun hh => by subst hh; exact starts_subset_assumed_of_lexical (List.mem_singleton_self i) _
    case isFalse hsome => exact Settles.recorded (hrest _) hopen hsome

/-- A class expression walks its superclass where it stands, and declares its name and walks its
body in the class's own scope. -/
theorem classExpression_lands {sp : Span} {ident sc : Option Node} {body : Node}
    (ih : LandsBelow U (classExpression sp ident sc body)) :
    VisitLands U (classExpression sp ident sc body) := by
  intro s home hoisting hoisted
  rw [visit.eq_def]
  simp only [declarationsIn, List.append_assoc]
  have hsc : Lands U (visitOption sc s) s home
      ((classExpression sp ident sc body).assumed hoisting hoisted)
      (optionDeclarations home false false sc) := visitOption_lands fun c hc =>
    (ih.child (c := c) (by simp [children, Option.mem_def.1 hc])).visit_fresh s home _
  have hbody := fun j => (ih.child (c := body) (by simp [children])).visit_fresh j
    (classExpression sp ident sc body, .classBody)
  cases ident with
  | none =>
    exact Lands.seq hsc fun _ => addScope_bind fun j => (hbody j _).mono (fun _ h => h) (by simp)
  | some i =>
    exact Lands.seq hsc fun _ => addScope_bind fun j =>
      (Lands.bind declare_lands fun _ => hbody j _).mono (fun _ h => h) (by simp)

/-- A catch clause opens its own scope, declares its parameter's names there and walks its
body there. -/
theorem catchClause_lands {sp : Span} {param : Option Node} {body : Node}
    (ih : LandsBelow U (catchClause sp param body)) : VisitLands U (catchClause sp param body) := by
  intro s home hoisting hoisted
  rw [visit.eq_def]
  have hbody := fun j => ih.visit_child (c := body) (by simp [children]) rfl j
    (catchClause sp param body, .catchClause) hoisting hoisted
  cases param with
  | none =>
    simp only [declarationsIn]
    exact addScope_bind fun j => (hbody j).mono (fun _ h => h) (by simp)
  | some p =>
    simp only [declarationsIn, List.append_assoc]
    exact addScope_bind fun j => Lands.seq (Lands.forM fun _ _ => declareInitialized_lands)
      fun _ => Lands.seq (ih.patternExpressions_child (c := p) (by simp [children]) rfl j _
        hoisting hoisted) fun _ => hbody j

/-- A `switch` walks its discriminant where it stands, then opens its own scope, hoists the
declarations of every case into it and walks the cases there. -/
theorem switchStatement_lands {sp : Span} {disc : Node} {cases : List Node}
    (ih : LandsBelow U (switchStatement sp disc cases)) :
    VisitLands U (switchStatement sp disc cases) := by
  intro s home hoisting hoisted
  rw [visit.eq_def]
  simp only [declarationsIn, List.append_assoc]
  refine Lands.seq (ih.visit_child (c := disc) (by simp [children]) rfl s home hoisting hoisted)
    fun _ => addScope_bind fun j => Lands.bind ?_ fun _ => Lands.forM_members fun c hc => ?_
  · refine (Lands.forM (L := fun c => c.caseIdentifiers.flatMap
      (declaredIn (switchStatement sp disc cases, .switchBody))) fun c _ => ?_).mono
      (fun _ h => h) (by simp [List.flatMap_assoc])
    cases c
    case switchCase sp' test cons _ => exact hoistLexical_lands cons j
    all_goals exact Lands.pure _
  · have hcc : c ∈ (switchStatement sp disc cases).children := List.mem_cons_of_mem _ hc
    have hup := assumed_child hcc rfl hoisting hoisted
    cases c
    case switchCase sp' test cons =>
      dsimp only
      have ihc := ih.below hcc
      refine Lands.seq (visitOption_lands fun t ht => ((ihc.visit_child (c := t)
        (by simp [children, Option.mem_def.1 ht]) rfl j _ hoisting false).mono
          (List.Subset.trans hup (List.subset_append_left _ _)) fun _ => Iff.rfl)) fun _ => ?_
      -- a statement of a case assumes what the switch assumes and what its hoisting made
      refine statements_lands (fun st hst => ⟨ihc.child (c := st) (by simp [children, hst]),
        ihc.below (c := st) (by simp [children, hst])⟩) j _ hoisting (fun st hst => ?_)
        fun st hst => ?_
      · exact List.Subset.trans (List.Subset.trans
          (assumed_child (c := st) (by simp [children, hst]) rfl hoisting false) hup)
            (List.subset_append_left _ _)
      · refine List.Subset.trans (starts_subset_of_subset
          (fun x hx => (?_ : x ∈ cases.flatMap caseIdentifiers)) _)
            (List.subset_append_right _ _)
        exact List.mem_flatMap.2 ⟨_, hc, List.mem_flatMap.2 ⟨st, hst, hx⟩⟩
    all_goals exact Lands.pure _

/-- A `for` loop whose head is a `let` or `const` declaration opens its own scope and hoists the
head's names into it; the loop's parts are walked in the scope the head chose. -/
theorem forStatement_lands {sp : Span} {init test update : Option Node} {body : Node}
    (ih : LandsBelow U (forStatement sp init test update body)) :
    VisitLands U (forStatement sp init test update body) := by
  intro s home hoisting hoisted
  rw [visit.eq_def]
  simp only [declarationsIn]
  have hchild : ∀ c ∈ (forStatement sp init test update body).children, ∀ j H pre,
      (forStatement sp init test update body).assumed hoisting hoisted ⊆ pre →
      Lands U (visit c j) j H pre (c.declarationsIn H hoisting false) :=
    fun c hc j H _ hpre =>
      (ih.visit_child hc rfl j H hoisting hoisted).mono hpre fun _ => Iff.rfl
  have htail : ∀ j H hh pre,
      (forStatement sp init test update body).assumed hoisting hoisted ⊆ pre →
      (∀ c ∈ init, c.assumed hoisting hh ⊆ pre) →
      Lands U (do visitOption init j; visitOption test j; visitOption update j; visit body j)
        j H pre (optionDeclarations H hoisting hh init ++ optionDeclarations H hoisting false test ++
          optionDeclarations H hoisting false update ++ declarationsIn H hoisting false body) :=
    fun j H hh pre hpre hinit => (Lands.seq (visitOption_lands fun c hc =>
        ((ih.child (c := c) (by simp [children, Option.mem_def.1 hc])).visit j H hoisting hh).mono
          (hinit c hc) fun _ => Iff.rfl) fun _ =>
      Lands.seq (visitOption_lands fun c hc =>
        hchild c (by simp [children, Option.mem_def.1 hc]) j H pre hpre) fun _ =>
      Lands.seq (visitOption_lands fun c hc =>
        hchild c (by simp [children, Option.mem_def.1 hc]) j H pre hpre) fun _ =>
      hchild body (by simp [children]) j H pre hpre).mono (fun _ h => h) (by simp)
  split
  case h_1 sp' ds kind =>
    have hd : variableDeclaration sp' ds kind ∈
        (forStatement sp (some (variableDeclaration sp' ds kind)) test update body).children := by
      simp [children]
    simp only [lexicalHead]
    by_cases hlet : (kind != .var) = true
    · -- the head's names, hoisted just now, are what the head assumes beyond the loop's
      simp only [hlet, if_true, Option.toList_some, List.flatMap_cons, List.flatMap_nil,
        List.append_nil]
      refine addScope_bind fun j => (Lands.bind (hoistLexical_lands _ j) fun _ =>
        Lands.pure_bind (htail j _ true _ (List.subset_append_left _ _) fun c hc => ?_)).mono
          (fun _ h => h) (by simp [listIdentifiers, unwrapExport])
      obtain rfl := Option.mem_some_iff.1 hc
      refine List.Subset.trans (assumed_unwrapExport_subset (variableDeclaration sp' ds kind)
        hoisting) (List.append_subset.2 ⟨List.Subset.trans (assumed_child hd rfl hoisting hoisted)
          (List.subset_append_left _ _), ?_⟩)
      exact List.Subset.trans
        (starts_subset_of_subset (fun x hx => by simpa [listIdentifiers] using hx) _)
        (List.subset_append_right _ _)
    · have hvar : (kind != .var) = false := Bool.eq_false_iff.2 hlet
      simp only [hvar, Bool.false_eq_true, if_false, List.flatMap_nil, List.nil_append]
      exact Lands.pure_bind (htail s home false _ (fun _ h => h) fun c hc => by
        obtain rfl := Option.mem_some_iff.1 hc
        exact assumed_child hd rfl hoisting hoisted)
  case h_2 hnot =>
    simp only [lexicalHead_eq_false hnot, Bool.false_eq_true, if_false, List.flatMap_nil,
      List.nil_append]
    exact Lands.pure_bind (htail s home false _ (fun _ h => h) fun c hc =>
      assumed_child (by simp [children, Option.mem_def.1 hc]) rfl hoisting hoisted)

/-- A `for-in` or `for-of` loop walks what it iterates over where it stands.  A declaration in
its head gives its names their values, in a scope of the loop's own when it is a `let` or
`const`; any other head is walked as an assignment target. -/
theorem forInOf_lands {n : Node} {sp : Span} {l r b : Node}
    (hn : n = forInStatement sp l r b ∨ n = forOfStatement sp l r b) (ih : LandsBelow U n) :
    VisitLands U n := by
  intro s home hoisting hoisted
  have hl : l ∈ n.children := by rcases hn with rfl | rfl <;> simp [children]
  have hr : r ∈ n.children := by rcases hn with rfl | rfl <;> simp [children]
  have hb : b ∈ n.children := by rcases hn with rfl | rfl <;> simp [children]
  have hfn : (n.isFunction || isClass n) = false := by rcases hn with rfl | rfl <;> rfl
  have hright := ih.visit_child hr hfn s home hoisting hoisted
  have hbody := ih.visit_child hb hfn
  have hleft := ih.target_child hl hfn s home hoisting hoisted false
  have hup := assumed_child hl hfn hoisting hoisted
  have ihl := ih.below hl
  rcases hn with rfl | rfl
  all_goals
    rw [visit.eq_def, declarationsIn.eq_def]
    dsimp only
    refine Lands.seq hright fun _ => ?_
    -- the builder and the declarations both look at the head's kind: split on it once
    cases l
    case variableDeclaration sp' ds kind =>
      dsimp only
      by_cases hlet : (kind != .var) = true
      all_goals simp only [hlet, if_true, Bool.false_eq_true, if_false, List.flatMap_nil,
        List.nil_append]
      rw [List.append_assoc, show (variableDeclaration sp' ds kind).lexicalIdentifiers =
        listIdentifiers [variableDeclaration sp' ds kind] by simp [listIdentifiers, unwrapExport]]
      refine addScope_bind fun j => Lands.seq (hoistLexical_lands _ j) fun _ => Lands.pure_bind
        (Lands.seq (Lands.forM_members fun d hd => ?_) fun _ => hbody j _ hoisting hoisted)
      rotate_left
      refine Lands.pure_bind (Lands.seq (Lands.forM_members fun d hd => ?_) fun _ =>
        hbody s home hoisting hoisted)
      -- either way, each declarator gives its names their values and walks its pattern
      all_goals
        cases d
        case variableDeclarator sp'' t init =>
          dsimp only
          exact Lands.nil_bind (markInitialized_lands t) fun _ =>
            ((ihl.below hd).patternExpressions_child (c := t) (by simp [children]) rfl _ _
              hoisting false).mono (List.Subset.trans (assumed_child hd rfl hoisting false) hup)
              fun _ => Iff.rfl
        all_goals exact Lands.pure _
    all_goals
      dsimp only
      exact Lands.seq hleft fun _ => hbody s home hoisting hoisted

theorem visit_lands_step {n : Node} (ih : LandsBelow U n)
    (hf : ∀ s home, Lands U (function n s) s home [] n.functionDeclarations) :
    VisitLands U n := by
  intro s home hoisting hoisted
  have hmembers : ∀ xs : List Node, (∀ c ∈ xs, c ∈ n.children) →
      ∀ st ∈ xs, LandsOn U st ∧ LandsBelow U st :=
    fun _ hxs st hst => ⟨ih.child (hxs st hst), ih.below (hxs st hst)⟩
  have hfun : ∀ s home pre, Lands U (function n s) s home pre n.functionDeclarations :=
    fun s home _ => (hf s home).mono (List.nil_subset _) fun _ => Iff.rfl
  cases n
  case program sp body isModule =>
    exact fun a _ => program_settles (hmembers body fun _ h => h) s home hoisting hoisted _ a
  case identifier sp name =>
    rw [visit.eq_def]
    simp only [declarationsIn]
    exact Lands.bind_nil (addReference_lands _ _ _ _) fun _ => Lands.pure _
  case functionDeclaration => exact functionDeclaration_lands hf s home hoisting hoisted
  case functionExpression sp ident ps b g a =>
    rw [visit.eq_def]
    simp only [declarationsIn]
    cases ident with
    | none => exact (hfun s home _).mono (fun _ h => h) (by simp)
    | some i =>
      -- the name of a function expression has a scope of its own around the function's
      exact (addScope_bind fun j => Lands.bind declare_lands fun _ => hfun j _ _).mono
        (fun _ h => h) (by simp)
  case arrowFunctionExpression sp ps b e a =>
    rw [visit.eq_def]
    simp only [declarationsIn]
    exact hfun s home _
  case blockStatement sp body =>
    rw [visit.eq_def]
    simp only [declarationsIn]
    exact addScope_bind fun j => list_lands (hmembers body fun _ h => h) j _ hoisting
      fun st hst => assumed_child hst rfl hoisting hoisted
  case staticBlock sp body =>
    rw [visit.eq_def]
    simp only [declarationsIn]
    exact addScope_bind fun j =>
      hoistedBody_lands (show (staticBlock sp body).children = body from rfl)
        (hmembers body fun _ h => h) j _
  case variableDeclaration => exact variableDeclaration_lands ih s home hoisting hoisted
  case assignmentExpression sp op l r =>
    rw [visit.eq_def]
    simp only [declarationsIn, children, flatMap_attach_declarationsIn, List.flatMap_cons,
      List.flatMap_nil, List.append_nil]
    exact Lands.seq (ih.target_child (c := l) (by simp [children]) rfl s home hoisting hoisted _)
      fun _ => ih.visit_child (c := r) (by simp [children]) rfl s home hoisting hoisted
  case updateExpression sp op a isPrefix =>
    rw [visit.eq_def]
    simp only [declarationsIn, children, flatMap_attach_declarationsIn, List.flatMap_cons,
      List.flatMap_nil, List.append_nil]
    have hva := ih.visit_child (c := a) (by simp [children]) rfl s home hoisting hoisted
    cases a
    case identifier sp' name =>
      simp only [declarationsIn]
      exact Lands.bind_nil (addReference_lands _ _ _ _) fun _ => Lands.pure _
    all_goals exact hva
  case memberExpression sp o p computed optional =>
    rw [visit.eq_def]
    simp only [declarationsIn]
    refine Lands.seq (ih.visit_child (c := o) (by simp [children]) rfl s home hoisting hoisted)
      fun _ => ?_
    cases computed
    · exact Lands.pure _
    · exact ih.visit_child (c := p) (by simp [children]) rfl s home hoisting hoisted
  case property sp k v kind computed method shorthand =>
    rw [visit.eq_def]
    simp only [declarationsIn]
    have hv := ih.visit_child (c := v) (by simp [children]) rfl s home hoisting hoisted
    cases computed
    · exact hv
    · exact Lands.seq (ih.visit_child (c := k) (by simp [children]) rfl s home hoisting hoisted)
        fun _ => hv
  case methodDefinition sp k computed v kind isStatic =>
    rw [visit.eq_def]
    simp only [declarationsIn]
    have hv := ih.visit_child (c := v) (by simp [children]) rfl s home hoisting hoisted
    cases computed
    · exact hv
    · exact Lands.seq (ih.visit_child (c := k) (by simp [children]) rfl s home hoisting hoisted)
        fun _ => hv
  case propertyDefinition sp k computed v isStatic =>
    rw [visit.eq_def]
    simp only [declarationsIn]
    have hv := visitOption_lands (o := v) fun c hc =>
      ih.visit_child (c := c) (by simp [children, Option.mem_def.1 hc]) rfl s home hoisting hoisted
    cases computed
    · exact hv
    · exact Lands.seq (ih.visit_child (c := k) (by simp [children]) rfl s home hoisting hoisted)
        fun _ => hv
  case privateIdentifier | breakStatement | continueStatement | metaProperty
      | importDeclaration | exportAllDeclaration =>
    rw [visit.eq_def]
    simp only [declarationsIn]
    exact Lands.pure _
  case labeledStatement sp l body =>
    rw [visit.eq_def]
    simp only [declarationsIn]
    exact ih.visit_child (c := body) (by simp [children]) rfl s home hoisting hoisted
  case exportDefaultDeclaration sp d =>
    rw [visit.eq_def]
    simp only [declarationsIn]
    exact Lands.bind_nil (ih.visit_child (c := d) (by simp [children]) rfl s home hoisting hoisted)
      fun _ => markExported_lands d
  case exportNamedDeclaration => exact exportNamedDeclaration_lands ih s home hoisting hoisted
  case classDeclaration => exact classDeclaration_lands ih s home hoisting hoisted
  case classExpression => exact classExpression_lands ih s home hoisting hoisted
  case catchClause => exact catchClause_lands ih s home hoisting hoisted
  case switchStatement => exact switchStatement_lands ih s home hoisting hoisted
  case forStatement => exact forStatement_lands ih s home hoisting hoisted
  case forInStatement => exact forInOf_lands (.inl rfl) ih s home hoisting hoisted
  case forOfStatement => exact forInOf_lands (.inr rfl) ih s home hoisting hoisted
  all_goals
    rw [visit.eq_def]
    simp only [declarationsIn]
    exact Lands.forM fun c _ => ih.visit_child c.2 rfl s home hoisting hoisted

/-- All four walks of the builder keep every declaration the arena records in a scope it belongs
in, and make the declarations of their node, on every node. -/
theorem landsOn (n : Node) : LandsOn U n := by
  have ih : LandsBelow U n := fun c _ => landsOn c
  have hf := function_lands_step ih
  have hv := visit_lands_step ih hf
  exact ⟨hv, hf, patternExpressions_lands_step ih,
    target_lands_step ih fun s home hoisting => hv s home hoisting false⟩
termination_by sizeOf n

end ScopeBuilder

/-! ## The declarations of a program -/

/-- The walk of a program records each of its declarations, and every declaration it records is
one of them, recorded under its name in a scope it belongs in. -/
theorem analyzeScopes_homed (sp : Span) (body : List Node) (isModule : Bool) :
    (analyzeScopes (.program sp body isModule)).Homed (Node.program sp body isModule).declarations ∧
      ∀ d ∈ (Node.program sp body isModule).declarations,
        (analyzeScopes (.program sp body isModule)).Declares d.start := by
  obtain ⟨hhomed, -, hdecl⟩ := ScopeBuilder.program_settles
    (fun st _ => ⟨ScopeBuilder.landsOn st, fun c _ => ScopeBuilder.landsOn c⟩) moduleScope
    (.program sp body isModule, .module) false false [] {} (fun _ h => h)
    (fun _ he => absurd he List.not_mem_nil) (fun _ h => absurd h List.not_mem_nil)
  exact ⟨hhomed, hdecl⟩

/-- A scope that holds a binding of a name finds it. -/
theorem Arena.binding?_isSome {a : Arena} {i : Nat} {sc : Scope} {name : String}
    (hsc : a.scope? i = some sc) (hany : sc.bindings.any (·.name == name) = true) :
    (a.binding? (i, name)).isSome := by
  simp only [Arena.binding?, hsc, Option.bind_some]
  exact List.find?_isSome.2 (List.any_eq_true.1 hany)

/-- Each record of a declaration that the walk of a program makes is made by a declaring
identifier of the program, and one made at the place of a declaring identifier that no other
shares names its name and a scope it belongs in. -/
theorem records_land_in_their_scopes {sp : Span} {body : List Node} {isModule : Bool}
    (hdistinct : ((Node.program sp body isModule).declarations.map Declaration.start).Nodup)
    {e : Nat × BindingKey} (he : e ∈ (analyzeScopes (.program sp body isModule)).declared) :
    (∃ d ∈ (Node.program sp body isModule).declarations, e.1 = d.start) ∧
      ∀ d ∈ (Node.program sp body isModule).declarations, e.1 = d.start →
        e.2.2 = d.name ∧ (analyzeScopes (.program sp body isModule)).Holds e.2.1 d := by
  obtain ⟨d', hd', hstart, hname, hholds⟩ := (analyzeScopes_homed sp body isModule).1 e he
  refine ⟨⟨d', hd', hstart.symm⟩, fun d hd hed => ?_⟩
  -- the record's own declaration is `d`: no other declaration starts there
  have hsame : d' = d := List.inj_on_of_nodup_map hdistinct hd' hd (hstart.trans hed)
  subst hsame
  exact ⟨hname, hholds⟩

/-- In a program whose declaring identifiers start at distinct places, each declaring identifier
is recorded as declaring its own name, in a scope of the node and kind it belongs in, and that
scope holds a binding of the name; and every record the walk makes is made by a declaring
identifier, under its name and in a scope it belongs in, so that no declaration, such as a
`var` inside a nested function or class, is also recorded in another scope. -/
theorem declarations_land_in_their_scopes (sp : Span) (body : List Node) (isModule : Bool)
    (hdistinct : ((Node.program sp body isModule).declarations.map Declaration.start).Nodup) :
    (∀ d ∈ (Node.program sp body isModule).declarations, ∃ i sc b,
      (analyzeScopes (.program sp body isModule)).declaredAt d.start = some (i, d.name) ∧
      (analyzeScopes (.program sp body isModule)).scope? i = some sc ∧ sc.node = d.node ∧
      sc.kind = d.kind ∧ (analyzeScopes (.program sp body isModule)).binding? (i, d.name) = some b) ∧
    ∀ e ∈ (analyzeScopes (.program sp body isModule)).declared,
      (∃ d ∈ (Node.program sp body isModule).declarations, e.1 = d.start) ∧
        ∀ d ∈ (Node.program sp body isModule).declarations, e.1 = d.start →
          e.2.2 = d.name ∧ ∃ sc, (analyzeScopes (.program sp body isModule)).scope? e.2.1 = some sc ∧
            sc.node = d.node ∧ sc.kind = d.kind := by
  refine ⟨fun d hd => ?_, fun e he => ?_⟩
  · obtain ⟨key, hkey⟩ :=
      Option.isSome_iff_exists.1 (Arena.declaredAt_isSome ((analyzeScopes_homed sp body isModule).2 d hd))
    obtain ⟨-, hown⟩ := records_land_in_their_scopes hdistinct (Arena.mem_declared_of_declaredAt hkey)
    obtain ⟨hname, sc, hsc, hnode, hkind, hany⟩ := hown d hd rfl
    obtain ⟨b, hb⟩ := Option.isSome_iff_exists.1 (Arena.binding?_isSome hsc hany)
    refine ⟨key.1, sc, b, ?_, hsc, hnode, hkind, hb⟩
    rw [hkey]
    exact congrArg some (Prod.ext rfl hname)
  · obtain ⟨hexists, hown⟩ := records_land_in_their_scopes hdistinct he
    refine ⟨hexists, fun d hd hed => ?_⟩
    obtain ⟨hname, sc, hsc, hnode, hkind, -⟩ := hown d hd hed
    exact ⟨hname, sc, hsc, hnode, hkind⟩

theorem nestedDeclarations_land :
    (nestedDeclarationsProgram.declarations.map Declaration.start).Nodup ∧
      (∀ d ∈ nestedDeclarationsProgram.declarations, ∃ i sc b,
        (analyzeScopes nestedDeclarationsProgram).declaredAt d.start = some (i, d.name) ∧
        (analyzeScopes nestedDeclarationsProgram).scope? i = some sc ∧ sc.node = d.node ∧
        sc.kind = d.kind ∧ (analyzeScopes nestedDeclarationsProgram).binding? (i, d.name) = some b) ∧
      ∀ e ∈ (analyzeScopes nestedDeclarationsProgram).declared,
        (∃ d ∈ nestedDeclarationsProgram.declarations, e.1 = d.start) ∧
          ∀ d ∈ nestedDeclarationsProgram.declarations, e.1 = d.start →
            e.2.2 = d.name ∧ ∃ sc, (analyzeScopes nestedDeclarationsProgram).scope? e.2.1 = some sc ∧
              sc.node = d.node ∧ sc.kind = d.kind := by
  have hdistinct : (nestedDeclarationsProgram.declarations.map Declaration.start).Nodup := by
    decide +kernel
  unfold nestedDeclarationsProgram at hdistinct ⊢
  exact ⟨hdistinct, declarations_land_in_their_scopes _ _ _ hdistinct⟩

/-- `{ import x from "y"; }` -/
def importInBlockProgram : Node :=
  .program (.onFirstLine 0 22) [
    .blockStatement (.onFirstLine 0 22) [
      .importDeclaration (.onFirstLine 2 20)
        [.importDefaultSpecifier (.onFirstLine 9 10) (.identifier (.onFirstLine 9 10) "x")]
        (.literal (.onFirstLine 16 19) (.string "y") "\"y\"" none none)]] true

/-- An import inside a block declares its local name in the block's scope: the module scope
holds no binding of it. -/
theorem importInBlock_declares_in_block :
    (analyzeScopes importInBlockProgram).declaredAt 9 = some (1, "x") ∧
      ((analyzeScopes importInBlockProgram).scope? 1).map Scope.kind = some .block ∧
      ((analyzeScopes importInBlockProgram).scope? moduleScope).map
        (·.bindings.any (·.name == "x")) = some false := by
  decide +kernel

end ScriptGate
