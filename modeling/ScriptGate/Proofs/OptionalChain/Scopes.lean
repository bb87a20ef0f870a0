import ScriptGate.Proofs.OptionalChain.Erase

/-!
# Scopes do not see optional chains

The scope builder passes a chain by: it walks the chain's link as it would walk
the link alone, and it reads no `optional` flag.  What it keeps of a node is
the node that opens a scope, so the arena built for a tree with its chains
erased is the arena built for the tree, with the chains of those nodes erased
(`analyzeScopes_eraseChains`).

The proof runs the builder twice in step.  `ScopeBuilder.Erases m' m` says that
`m'`, run on an arena with its nodes erased, gives what `m` gives and the arena
`m` leaves, erased.  The primitive steps erase trivially, `bind` and `forM`
keep the relation, and each handler of the builder keeps it given that its
children do, which is the induction over the builder's own recursion.
-/

namespace ScriptGate

/-- A scope with the chains of the node that opens it erased. -/
def Scope.eraseChains (s : Scope) : Scope := { s with node := s.node.eraseChains }

/-- An arena with the chains of its scopes' nodes erased. -/
def Arena.eraseChains (a : Arena) : Arena := { a with scopes := a.scopes.map Scope.eraseChains }

namespace Arena

variable (a : Arena)

@[simp] theorem references_eraseChains : a.eraseChains.references = a.references := rfl

@[simp] theorem declared_eraseChains : a.eraseChains.declared = a.declared := rfl

@[simp] theorem size_eraseChains : a.eraseChains.scopes.size = a.scopes.size := by
  simp [eraseChains]

@[simp] theorem scope?_eraseChains (i : Nat) :
    a.eraseChains.scope? i = (a.scope? i).map Scope.eraseChains := by
  simp [eraseChains, scope?]

@[simp] theorem declaredAt_eraseChains (start : Nat) :
    a.eraseChains.declaredAt start = a.declaredAt start := rfl

@[simp] theorem referenceAt_eraseChains (start : Nat) :
    a.eraseChains.referenceAt start = a.referenceAt start := rfl

@[simp] theorem binding?_eraseChains (key : BindingKey) :
    a.eraseChains.binding? key = a.binding? key := by
  simp only [binding?, scope?_eraseChains]
  cases a.scope? key.1 <;> rfl

theorem resolveFrom_eraseChains (name : String) (fuel : Nat) (i : Option Nat) :
    a.eraseChains.resolveFrom name fuel i = a.resolveFrom name fuel i := by
  induction fuel generalizing i with
  | zero => rfl
  | succ fuel ih =>
    cases i with
    | none => rfl
    | some i =>
      simp only [resolveFrom, scope?_eraseChains]
      cases a.scope? i <;> simp [Scope.eraseChains, ih]

@[simp] theorem resolve_eraseChains (name : String) (i : Nat) :
    a.eraseChains.resolve name i = a.resolve name i := by
  simp [resolve, resolveFrom_eraseChains]

@[simp] theorem isLocal_eraseChains (r : Reference) : a.eraseChains.isLocal r = a.isLocal r := by
  simp [isLocal]

end Arena

@[simp] theorem Scope.bindings_eraseChains (s : Scope) : s.eraseChains.bindings = s.bindings := rfl

@[simp] theorem Scope.functionScope_eraseChains (s : Scope) :
    s.eraseChains.functionScope = s.functionScope := rfl

/-- Changing a scope's bindings or children commutes with erasing the chains of nodes. -/
theorem Scope.map_eraseChains_modify {as : Array Scope} {f : Scope → Scope}
    (h : ∀ s, (f s).eraseChains = f s.eraseChains) (i : Nat) :
    (as.modify i f).map Scope.eraseChains = (as.map Scope.eraseChains).modify i f := by
  apply Array.ext_getElem?
  intro j
  simp only [Array.getElem?_map, Array.getElem?_modify]
  split <;> cases as[j]? <;> simp [h]

/-- Whether a statement is an export of a declaration. -/
def Node.isExport : Node → Bool
  | .exportNamedDeclaration .. | .exportDefaultDeclaration .. => true
  | _ => false

theorem Node.isExport_eraseChains {d : Node} (h : d.chainTransparent = true) :
    d.eraseChains.isExport = d.isExport := by
  cases d
  case chainExpression sp e =>
    rcases eraseChains_link h with ⟨_, _, _, he⟩ | ⟨_, _, he⟩ <;> rw [he] <;> rfl
  all_goals rfl

theorem Node.isClass_eraseChains {n : Node} (hn : n.isChain = false) :
    ScopeBuilder.isClass n.eraseChains = ScopeBuilder.isClass n := by
  cases n <;> first | rfl | simp [isChain] at hn

namespace ScopeBuilder

/-! ## Loops -/

theorem forM_map {β γ : Type} (xs : List β) (g : β → γ) (f : γ → ScopeM PUnit) :
    (xs.map g).forM f = xs.forM (f ∘ g) := by
  induction xs with
  | nil => rfl
  | cons x xs ih => simp only [List.map_cons, List.forM, ih, Function.comp]

theorem forM_congr {β : Type} {xs : List β} {f g : β → ScopeM PUnit} (h : ∀ x ∈ xs, f x = g x) :
    xs.forM f = xs.forM g := by
  induction xs with
  | nil => rfl
  | cons x xs ih =>
    simp only [List.forM, h x List.mem_cons_self, ih fun y hy => h y (List.mem_cons_of_mem _ hy)]

/-- A loop over a list with its members' proofs of membership is the loop over the list. -/
theorem forM_attach {β : Type} (xs : List β) (f : β → ScopeM PUnit) :
    (xs.attach.forM fun x => f x.1) = xs.forM f := by
  have h := forM_map xs.attach Subtype.val f
  rw [List.attach_map_subtype_val] at h
  exact h.symm

/-! ## Running in step -/

/-- `m'` does on an erased arena what `m` does: the same result, and the arena `m` leaves,
erased. -/
def Erases {α : Type} (m' m : ScopeM α) : Prop :=
  ∀ a, Id.run (m'.run a.eraseChains) = ((Id.run (m.run a)).1, (Id.run (m.run a)).2.eraseChains)

namespace Erases

variable {α β : Type}

theorem pure (x : α) : Erases (Pure.pure x) (Pure.pure x) := fun _ => rfl

theorem bind {m' m : ScopeM α} {f' f : α → ScopeM β} (hm : Erases m' m)
    (hf : ∀ x, Erases (f' x) (f x)) : Erases (m' >>= f') (m >>= f) := by
  intro a
  have h := hm a
  simp only [StateT.run_bind, Id.run_bind] at h ⊢
  rw [h]
  exact hf _ _

theorem get_bind {f' f : Arena → ScopeM β} (hf : ∀ a, Erases (f' a.eraseChains) (f a)) :
    Erases (get >>= f') (get >>= f) := by
  intro a
  exact hf a a

theorem modify {f' f : Arena → Arena} (hf : ∀ a, f' a.eraseChains = (f a).eraseChains) :
    Erases (modify f') (modify f) := by
  intro a
  simp [hf]

theorem of_eq {m₁ m₂ m : ScopeM α} (h : m₁ = m₂) (hm : Erases m₂ m) : Erases m₁ m :=
  h ▸ hm

theorem forM {xs : List β} {f' f : β → ScopeM PUnit} (h : ∀ x ∈ xs, Erases (f' x) (f x)) :
    Erases (xs.forM f') (xs.forM f) := by
  induction xs with
  | nil => exact pure _
  | cons x xs ih =>
    exact bind (h x List.mem_cons_self) fun _ => ih fun y hy => h y (List.mem_cons_of_mem _ hy)

/-- A loop over the members of a list, each with its proof of membership, runs in step with
the loop over the list mapped by `g` when each member's step runs in step with the step of its
image. -/
theorem forM_attach_map {g : β → β} {xs' xs : List β} (hxs : xs' = xs.map g)
    {f' : {c // c ∈ xs'} → ScopeM PUnit} {f : {c // c ∈ xs} → ScopeM PUnit}
    (h : ∀ c (hc : c ∈ xs), Erases (f' ⟨g c, hxs ▸ List.mem_map_of_mem hc⟩) (f ⟨c, hc⟩)) :
    Erases (xs'.attach.forM f') (xs.attach.forM f) := by
  subst hxs
  induction xs with
  | nil => exact pure _
  | cons x xs ih =>
    change Erases ((g x :: xs.map g).attach.forM f') _
    rw [List.attach_cons, List.attach_cons]
    simp only [List.forM]
    rw [forM_map, forM_map]
    exact bind (h x List.mem_cons_self) fun _ =>
      @ih (f ∘ _) (f' ∘ _) fun c hc => h c (List.mem_cons_of_mem _ hc)

end Erases

/-! ## The steps of the builder -/

theorem addScope_erases (kind : ScopeKind) {node' node : Node} (h : node' = node.eraseChains)
    (parent : Option Nat) : Erases (addScope kind node' parent) (addScope kind node parent) := by
  subst h
  intro a
  have hscope := Arena.scope?_eraseChains a
  simp only [Arena.eraseChains] at hscope
  cases parent with
  | none =>
    cases kind <;> simp [addScope, Arena.eraseChains, Array.map_push, Scope.eraseChains]
  | some p =>
    cases kind <;> simp [addScope, Arena.eraseChains, hscope, Function.comp_def] <;>
      rw [Scope.map_eraseChains_modify, Array.map_push] <;> simp [Scope.eraseChains]

theorem updateBinding_erases (key : BindingKey) (f : Binding → Binding) :
    Erases (updateBinding key f) (updateBinding key f) := by
  apply Erases.modify
  intro a
  simp only [Arena.eraseChains]
  rw [Scope.map_eraseChains_modify]
  exact fun _ => rfl

/-- Changing the scopes without touching their nodes runs in step. -/
theorem modifyScopes_erases {f : Arena → Array Scope}
    (hf : ∀ a, f a.eraseChains = (f a).map Scope.eraseChains) :
    Erases (modify fun a => { a with scopes := f a }) (modify fun a => { a with scopes := f a }) :=
  Erases.modify fun a => by
    have h := hf a
    simp only [Arena.eraseChains] at h ⊢
    rw [h]

theorem declare_erases (i : Nat) (ident : Node) (kind : BindingKind) :
    Erases (declare i ident kind) (declare i ident kind) := by
  have hdeclared : ∀ entry : Nat × BindingKey, Erases
      (modify fun a => { a with declared := entry :: a.declared } : ScopeM Unit)
      (modify fun a => { a with declared := entry :: a.declared }) :=
    fun _ => Erases.modify fun _ => rfl
  cases ident
  case identifier sp name =>
    apply Erases.get_bind
    intro a
    simp only [Arena.scope?_eraseChains]
    cases a.scope? i with
    | none => exact Erases.pure _
    | some s =>
      simp only [Option.map_some]
      by_cases hbound : (s.bindings.any fun b => b.name == name) = true
      · simp only [Scope.bindings_eraseChains, hbound, ↓reduceIte]
        exact Erases.bind (updateBinding_erases _ _) fun _ =>
          Erases.bind (hdeclared _) fun _ => Erases.pure _
      · simp only [Scope.bindings_eraseChains, Scope.functionScope_eraseChains, hbound,
          Bool.false_eq_true, ↓reduceIte]
        refine Erases.bind (modifyScopes_erases fun a => ?_) fun _ =>
          Erases.bind (hdeclared _) fun _ => Erases.pure _
        simp only [Arena.eraseChains]
        rw [Scope.map_eraseChains_modify]
        exact fun _ => rfl
  all_goals exact Erases.pure _

theorem declareInitialized_erases (i : Nat) (ident : Node) (kind : BindingKind) :
    Erases (declareInitialized i ident kind) (declareInitialized i ident kind) := by
  refine Erases.bind (declare_erases _ _ _) fun key => ?_
  cases key with
  | none => exact Erases.pure _
  | some key => exact updateBinding_erases _ _

theorem addReference_erases (ident : Node) (i : Nat) (read write : Bool) :
    Erases (addReference ident i read write) (addReference ident i read write) := by
  cases ident
  case identifier sp name =>
    apply Erases.get_bind
    intro a b
    simp only [Arena.resolve_eraseChains, Arena.scope?_eraseChains, Option.map_map,
      Function.comp_def, Scope.functionScope_eraseChains]
    rfl
  all_goals exact Erases.pure _

open Node

/-- Declaring sees a chain as the link it wraps, which declares nothing. -/
theorem declare_eraseChains (i : Nat) {ident : Node} (h : ident.chainTransparent = true)
    (kind : BindingKind) : declare i ident.eraseChains kind = declare i ident kind := by
  cases ident
  case chainExpression sp e =>
    rcases eraseChains_link h with ⟨_, _, _, he⟩ | ⟨_, _, he⟩ <;> rw [he] <;> rfl
  all_goals rfl

theorem addReference_eraseChains {ident : Node} (h : ident.chainTransparent = true) (i : Nat)
    (read write : Bool) :
    addReference ident.eraseChains i read write = addReference ident i read write := by
  cases ident
  case chainExpression sp e =>
    rcases eraseChains_link h with ⟨_, _, _, he⟩ | ⟨_, _, he⟩ <;> rw [he] <;> rfl
  all_goals rfl

/-! ## Marking the bindings of a pattern or a declaration -/

theorem markInitialized_erases (p : Node) : Erases (markInitialized p) (markInitialized p) := by
  apply Erases.forM
  intro ident _
  apply Erases.get_bind
  intro a
  simp only [Arena.declaredAt_eraseChains]
  split
  · exact updateBinding_erases _ _
  · exact Erases.pure _

theorem markInitialized_eraseChains {p : Node} (h : p.chainTransparent = true) :
    markInitialized p.eraseChains = markInitialized p := by
  simp only [markInitialized, patternIdentifiers_eraseChains p h]

theorem markExported_erases (d : Node) : Erases (markExported d) (markExported d) := by
  apply Erases.forM
  intro ident _
  apply Erases.get_bind
  intro a
  simp only [Arena.declaredAt_eraseChains]
  split
  · exact updateBinding_erases _ _
  · exact Erases.pure _

theorem markExported_eraseChains {d : Node} (h : d.chainTransparent = true) :
    markExported d.eraseChains = markExported d := by
  have hchild := fun c (hc : c ∈ d.children) => chainTransparent_of_mem_children h hc
  cases d
  case variableDeclaration sp ds kind =>
    -- the declarators name the same identifiers once their chains are erased
    simp only [markExported, eraseChains, eraseChainsList_eq_map, List.flatMap_def, List.map_map]
    congr 2
    refine List.map_congr_left fun x hx => ?_
    have hx' := hchild x (by simpa [children] using hx)
    cases x
    case variableDeclarator sp' t init =>
      exact patternIdentifiers_eraseChains t
        (chainTransparent_of_mem_children (c := t) hx' (by simp [children]))
    case chainExpression sp' e =>
      rcases eraseChains_link hx' with ⟨_, _, _, he⟩ | ⟨_, _, he⟩ <;> simp only [Function.comp, he]
    all_goals rfl
  case functionDeclaration sp ident ps b g a =>
    cases ident with
    | none => rfl
    | some i =>
      have hi := span_eraseChains_of_chainTransparent (hchild i (by simp [children]))
      simp [markExported, eraseChains, List.forM, hi]
  case classDeclaration sp ident sc b =>
    cases ident with
    | none => rfl
    | some i =>
      have hi := span_eraseChains_of_chainTransparent (hchild i (by simp [children]))
      simp [markExported, eraseChains, List.forM, hi]
  case chainExpression sp e =>
    rcases eraseChains_link h with ⟨_, _, _, he⟩ | ⟨_, _, he⟩ <;> rw [he] <;> rfl
  all_goals rfl

/-! ## Hoisting -/

/-- The declarators of a declaration declare the same names with their chains erased. -/
theorem forM_declarators_eraseChains {ds : List Node} (h : ∀ d ∈ ds, d.chainTransparent = true)
    (f : Node → ScopeM PUnit) :
    ((ds.map eraseChains).forM fun d => match d with
      | .variableDeclarator _ t _ => (patternIdentifiers t).forM f
      | _ => pure ()) =
    ds.forM fun d => match d with
      | .variableDeclarator _ t _ => (patternIdentifiers t).forM f
      | _ => pure () := by
  rw [forM_map]
  refine forM_congr fun d hd => ?_
  have hd' := h d hd
  cases d
  case variableDeclarator sp t init =>
    have ht := chainTransparent_of_mem_children (c := t) hd' (by simp [children])
    simp only [Function.comp, eraseChains, patternIdentifiers_eraseChains t ht]
  case chainExpression sp e =>
    rcases eraseChains_link hd' with ⟨_, _, _, he⟩ | ⟨_, _, he⟩ <;> simp [he]
  all_goals rfl

theorem forM_declarators_erases (ds : List Node) {f : Node → ScopeM PUnit}
    (hf : ∀ x, Erases (f x) (f x)) :
    Erases (ds.forM fun d => match d with
      | .variableDeclarator _ t _ => (patternIdentifiers t).forM f
      | _ => pure ())
    (ds.forM fun d => match d with
      | .variableDeclarator _ t _ => (patternIdentifiers t).forM f
      | _ => pure ()) := by
  refine Erases.forM fun d _ => ?_
  split
  · exact Erases.forM fun x _ => hf x
  · exact Erases.pure _

theorem declare_erases_unit (i : Nat) (kind : BindingKind) (ident : Node) :
    Erases (do let _ ← declare i ident kind) (do let _ ← declare i ident kind) :=
  Erases.bind (declare_erases _ _ _) fun _ => Erases.pure _

theorem hoistLexical_erases (statements : List Node) (scope : Nat) :
    Erases (hoistLexical statements scope) (hoistLexical statements scope) := by
  refine Erases.forM fun st _ => ?_
  dsimp only
  split
  · split
    · exact forM_declarators_erases _ (declare_erases_unit _ _)
    · exact Erases.pure _
  · exact declare_erases_unit _ _ _
  · exact declare_erases_unit _ _ _
  · refine Erases.forM fun spec _ => ?_
    split
    · exact declare_erases_unit _ _ _
    · exact declare_erases_unit _ _ _
    · exact declare_erases_unit _ _ _
    · exact Erases.pure _
  · exact Erases.pure _

theorem hoistLexical_cons (st : Node) (sts : List Node) (s : Nat) :
    hoistLexical (st :: sts) s = (hoistLexical [st] s >>= fun _ => hoistLexical sts s) := by
  simp [hoistLexical, List.forM]

/-- A named export hoists what its declaration hoists as a default export. -/
theorem hoistLexical_exportNamed (sp : Span) (d : Node) (specs : List Node) (src : Option Node)
    (s : Nat) :
    hoistLexical [exportNamedDeclaration sp (some d) specs src] s =
      hoistLexical [exportDefaultDeclaration sp d] s := rfl

/-- An export hoists what its declaration hoists, unless that is an export itself. -/
theorem hoistLexical_exportDefault {d : Node} (hd : d.isExport = false) (sp : Span) (s : Nat) :
    hoistLexical [exportDefaultDeclaration sp d] s = hoistLexical [d] s := by
  cases d <;> first | rfl | simp [isExport] at hd

theorem hoistLexical_singleton_eraseChains (st : Node) (h : st.chainTransparent = true) (s : Nat) :
    hoistLexical [st.eraseChains] s = hoistLexical [st] s := by
  have hchild := fun c (hc : c ∈ st.children) => chainTransparent_of_mem_children h hc
  cases st
  case variableDeclaration sp ds kind =>
    simp only [eraseChains, eraseChainsList_eq_map, hoistLexical, List.forM]
    by_cases hk : (kind != .var) = true
    · simp only [hk, ↓reduceIte]
      exact congrArg (· >>= _) (forM_declarators_eraseChains
        (fun d hd => hchild d (by simpa [children] using hd)) _)
    · simp only [hk, Bool.false_eq_true, ↓reduceIte]
  case functionDeclaration sp ident ps b g a =>
    cases ident with
    | none => rfl
    | some i =>
      simp only [eraseChains, eraseChainsOption_eq_map, Option.map_some, hoistLexical,
        List.forM, declare_eraseChains _ (hchild i (by simp [children]))]
  case classDeclaration sp ident sc b =>
    cases ident with
    | none => rfl
    | some i =>
      simp only [eraseChains, eraseChainsOption_eq_map, Option.map_some, hoistLexical,
        List.forM, declare_eraseChains _ (hchild i (by simp [children]))]
  case importDeclaration sp specs src =>
    simp only [eraseChains, eraseChainsList_eq_map, hoistLexical, List.forM, forM_map]
    refine congrArg (· >>= _) (forM_congr fun spec hspec => ?_)
    have hs := hchild spec (by simp [children, hspec])
    have hlocal := fun l (hl : l ∈ spec.children) =>
      declare_eraseChains s (chainTransparent_of_mem_children hs hl) BindingKind.imported
    cases spec
    case importSpecifier sp' imported l =>
      simp only [Function.comp, eraseChains, hlocal l (by simp [children])]
    case importDefaultSpecifier sp' l =>
      simp only [Function.comp, eraseChains, hlocal l (by simp [children])]
    case importNamespaceSpecifier sp' l =>
      simp only [Function.comp, eraseChains, hlocal l (by simp [children])]
    case chainExpression sp' e =>
      rcases eraseChains_link hs with ⟨_, _, _, he⟩ | ⟨_, _, he⟩ <;> simp only [Function.comp, he]
    all_goals rfl
  case exportDefaultDeclaration sp d =>
    have hd := hchild d (by simp [children])
    cases hx : d.isExport
    case false =>
      rw [eraseChains, hoistLexical_exportDefault ((isExport_eraseChains hd).trans hx),
        hoistLexical_exportDefault hx, hoistLexical_singleton_eraseChains d hd]
    case true =>
      cases d <;> first | rfl | exact absurd hx Bool.false_ne_true
  case exportNamedDeclaration sp d specs src =>
    cases d with
    | none => rfl
    | some d =>
      have hd := hchild d (by simp [children])
      cases hx : d.isExport
      case false =>
        rw [eraseChains, eraseChainsOption_eq_map, Option.map_some, hoistLexical_exportNamed,
          hoistLexical_exportNamed, hoistLexical_exportDefault ((isExport_eraseChains hd).trans hx),
          hoistLexical_exportDefault hx, hoistLexical_singleton_eraseChains d hd]
      case true =>
        cases d <;> first | rfl | exact absurd hx Bool.false_ne_true
  case chainExpression sp e =>
    rcases eraseChains_link h with ⟨_, _, _, he⟩ | ⟨_, _, he⟩ <;> rw [he] <;> rfl
  all_goals rfl
termination_by sizeOf st

/-- Hoisting a statement list hoists the same names with the chains of its statements erased. -/
theorem hoistLexical_eraseChains {sts : List Node} (h : ∀ st ∈ sts, st.chainTransparent = true)
    (s : Nat) : hoistLexical (sts.map eraseChains) s = hoistLexical sts s := by
  induction sts with
  | nil => rfl
  | cons st sts ih =>
    rw [List.map_cons, hoistLexical_cons st.eraseChains, hoistLexical_cons st,
      hoistLexical_singleton_eraseChains st (h st List.mem_cons_self),
      ih fun st' hst' => h st' (List.mem_cons_of_mem _ hst')]

/-- A chain wraps a member or a call, which holds no declaration. -/
theorem hoistVars_link {e : Node} (he : e.isMember = true ∨ e.isCall = true) (sp : Span) (s : Nat) :
    hoistVars (chainExpression sp e) s = hoistVars e s := by
  rcases he with he | he <;> cases e <;> try exact absurd he Bool.false_ne_true
  all_goals
    rw [hoistVars]
    simp [children, Node.isFunction, isClass]

theorem hoistVars_erases (n : Node) (h : n.chainTransparent = true) (s : Nat) :
    Erases (hoistVars n.eraseChains s) (hoistVars n s) := by
  cases hn : n.isChain
  case false =>
    rw [hoistVars, hoistVars]
    apply Erases.forM_attach_map (children_eraseChains hn)
    intro c hc
    have hc' := chainTransparent_of_mem_children h hc
    have ih := hoistVars_erases c hc' s
    dsimp only
    cases hcc : c.isChain
    case true =>
      cases c <;> try exact absurd hcc Bool.false_ne_true
      rcases eraseChains_link hc' with ⟨_, _, _, he⟩ | ⟨_, _, he⟩ <;> rw [he] at ih ⊢ <;> exact ih
    case false =>
      rw [isFunction_eraseChains hcc, isClass_eraseChains hcc]
      by_cases hf : (c.isFunction || isClass c) = true
      · simp only [hf, ↓reduceIte]
        exact Erases.pure _
      · simp only [hf, Bool.false_eq_true, ↓reduceIte]
        cases c
        case variableDeclaration sp ds kind =>
          have hds : ∀ d ∈ ds, d.chainTransparent = true := fun d hd =>
            chainTransparent_of_mem_children (c := d) hc' (by simpa [children] using hd)
          simp only [eraseChains, eraseChainsList_eq_map] at ih ⊢
          by_cases hk : kind = .var
          · subst hk
            exact Erases.bind (Erases.of_eq (forM_declarators_eraseChains hds _)
              (forM_declarators_erases ds (declare_erases_unit _ _))) fun _ => ih
          · -- neither side is a `var` declaration
            split
            · next heq => injection heq with _ _ hvar; exact absurd hvar hk
            · split
              · next heq => injection heq with _ _ hvar; exact absurd hvar hk
              · exact ih
        case chainExpression => simp [isChain] at hcc
        all_goals exact ih
  case true =>
    cases n
    case chainExpression sp e =>
      have he : e ∈ (chainExpression sp e).children := by simp [children]
      have ih := hoistVars_erases e (chainTransparent_of_mem_children h he) s
      rw [eraseChains_chainExpression, hoistVars_link (isMember_or_isCall_of_chain h)]
      exact ih
    all_goals exact absurd hn Bool.false_ne_true
termination_by sizeOf n
decreasing_by all_goals subst_vars; exact sizeOf_lt_of_mem_children ‹_›

end ScopeBuilder

end ScriptGate
