import ScriptGate.Scope.Builder

/-!
# The chain of scopes a reference sees

`Arena.resolve` looks for a name in the scopes met going up the chain of parents
from a reference's scope, nearest first.  `Arena.chain` lists those scopes, and a
name resolves to the first of them that declares it (`Arena.resolve_eq_find?`).

The builder only ever adds to an arena: it appends scopes, adds bindings and
identifiers to them, and appends references; it never changes the parent of a
scope nor drops a name (`Arena.Extends`).  A chain only grows as the arena does, and
a scope that declares a name keeps declaring it, so a reference that resolved to a
binding when it was made names, in every later arena, a scope on its chain that
declares its name (`Arena.Sound`).  `ScopeBuilder.Adds m L` says that a step of the
builder only extends the arena, keeps it sound and appends references of exactly the
names and places `L` (`Arena.sites`); each step the builder is made of adds nothing but
`addReference`, which adds its identifier (`ScopeBuilder.addReference_adds` and the
lemmas around it).
-/

namespace ScriptGate

/-- `s'` extends `s`: it has the same parent and declares every name `s` declares. -/
structure Scope.Extends (s s' : Scope) : Prop where
  parent : s'.parent = s.parent
  names : ∀ name, s.bindings.any (·.name == name) = true → s'.bindings.any (·.name == name) = true

theorem Scope.Extends.refl (s : Scope) : s.Extends s := ⟨rfl, fun _ h => h⟩

theorem Scope.Extends.trans {s s' s'' : Scope} (h : s.Extends s') (h' : s'.Extends s'') :
    s.Extends s'' :=
  ⟨h'.parent.trans h.parent, fun name hn => h'.names name (h.names name hn)⟩

namespace Arena

/-- The scopes met going up the chain of parents from `i`, nearest first, at most `fuel` of
them: the scopes `resolveFrom` looks in. -/
def chainFrom (a : Arena) : Nat → Option Nat → List Nat
  | 0, _ => []
  | _ + 1, none => []
  | n + 1, some i =>
    match a.scope? i with
    | none => []
    | some s => i :: a.chainFrom n s.parent

/-- The scopes visible from scope `i`, nearest first. -/
def chain (a : Arena) (i : Nat) : List Nat := a.chainFrom (a.scopes.size + 1) (some i)

/-- Whether scope `i` declares `name`. -/
def declares (a : Arena) (i : Nat) (name : String) : Bool :=
  (a.scope? i).any fun s => s.bindings.any (·.name == name)

theorem resolveFrom_eq_find? (a : Arena) (name : String) :
    ∀ fuel i, a.resolveFrom name fuel i =
      ((a.chainFrom fuel i).find? (a.declares · name)).map (·, name)
  | 0, _ => rfl
  | _ + 1, none => rfl
  | n + 1, some i => by
    simp only [resolveFrom, chainFrom]
    cases hs : a.scope? i with
    | none => rfl
    | some s =>
      have hdecl : a.declares i name = s.bindings.any (·.name == name) := by simp [declares, hs]
      cases hb : s.bindings.any (·.name == name) <;>
        simp [hdecl, hb, resolveFrom_eq_find? a name n s.parent]

/-- A name resolves to the nearest scope on the chain that declares it. -/
theorem resolve_eq_find? (a : Arena) (name : String) (i : Nat) :
    a.resolve name i = ((a.chain i).find? (a.declares · name)).map (·, name) :=
  resolveFrom_eq_find? a name _ _

/-- A name that resolves names a scope on the chain that declares it. -/
theorem mem_chain_of_resolve {a : Arena} {name : String} {i : Nat} {key : BindingKey}
    (h : a.resolve name i = some key) :
    key.2 = name ∧ key.1 ∈ a.chain i ∧ a.declares key.1 name = true := by
  rw [resolve_eq_find?] at h
  obtain ⟨j, hj, rfl⟩ := Option.map_eq_some_iff.1 h
  exact ⟨rfl, List.mem_of_find?_eq_some hj, by simpa using List.find?_some hj⟩

/-! ## Extending an arena -/

/-- Every scope of `S` is in `S'` at the same index, extended. -/
def ScopesExtend (S S' : Array Scope) : Prop :=
  ∀ (i : Nat) (s : Scope), S[i]? = some s → ∃ s', S'[i]? = some s' ∧ s.Extends s'

namespace ScopesExtend

theorem refl (S : Array Scope) : ScopesExtend S S := fun _ s h => ⟨s, h, Scope.Extends.refl s⟩

theorem trans {S S' S'' : Array Scope} (h : ScopesExtend S S') (h' : ScopesExtend S' S'') :
    ScopesExtend S S'' := by
  intro i s hs
  obtain ⟨s', hs', e⟩ := h i s hs
  obtain ⟨s'', hs'', e'⟩ := h' i s' hs'
  exact ⟨s'', hs'', e.trans e'⟩

/-- Appending a scope keeps every scope there was. -/
theorem push (S : Array Scope) (x : Scope) : ScopesExtend S (S.push x) := by
  intro i s hs
  have hi : i ≠ S.size := by
    rintro rfl
    simp at hs
  exact ⟨s, by rw [Array.getElem?_push, if_neg hi, hs], Scope.Extends.refl s⟩

/-- Changing one scope so that it extends itself keeps every scope extended. -/
theorem modify (S : Array Scope) (p : Nat) {f : Scope → Scope} (hf : ∀ s, Scope.Extends s (f s)) :
    ScopesExtend S (S.modify p f) := by
  intro i s hs
  rw [Array.getElem?_modify, hs]
  split
  · exact ⟨f s, rfl, hf s⟩
  · exact ⟨s, rfl, Scope.Extends.refl s⟩

end ScopesExtend

/-- `b` extends `a`: each scope of `a` is in `b` under the same parent and declares at least
the names it declared, and the references of `a` begin those of `b`. -/
structure Extends (a b : Arena) : Prop where
  scopes : ScopesExtend a.scopes b.scopes
  references : a.references.toList <+: b.references.toList

namespace Extends

theorem refl (a : Arena) : a.Extends a := ⟨ScopesExtend.refl _, List.prefix_refl _⟩

theorem trans {a b c : Arena} (hab : a.Extends b) (hbc : b.Extends c) : a.Extends c :=
  ⟨hab.scopes.trans hbc.scopes, hab.references.trans hbc.references⟩

theorem declares {a b : Arena} (hab : a.Extends b) {i : Nat} {name : String}
    (h : a.declares i name = true) : b.declares i name = true := by
  simp only [Arena.declares, scope?] at h ⊢
  cases hs : a.scopes[i]? with
  | none => simp [hs] at h
  | some s =>
    obtain ⟨s', hs', hext⟩ := hab.scopes i s hs
    rw [hs] at h
    rw [hs']
    exact hext.names name h

theorem size_le {a b : Arena} (hab : a.Extends b) : a.scopes.size ≤ b.scopes.size := by
  refine Nat.le_of_not_lt fun hb => ?_
  obtain ⟨s', h', -⟩ := hab.scopes b.scopes.size a.scopes[b.scopes.size] (by simp [hb])
  simp at h'

/-- The chain from a scope in `a` begins its chain in `b`, given as much fuel. -/
theorem chainFrom_prefix {a b : Arena} (hab : a.Extends b) :
    ∀ {n m : Nat}, n ≤ m → ∀ x, a.chainFrom n x <+: b.chainFrom m x
  | 0, _, _, _ => List.nil_prefix
  | _ + 1, _ + 1, _, none => List.nil_prefix
  | n + 1, m + 1, hnm, some i => by
    simp only [chainFrom]
    cases hs : a.scope? i with
    | none => exact List.nil_prefix
    | some s =>
      obtain ⟨s', hs', hext⟩ := hab.scopes i s hs
      simp only [scope?, hs', hext.parent, List.prefix_cons_inj]
      exact chainFrom_prefix hab (by omega) s.parent

theorem mem_chain {a b : Arena} (hab : a.Extends b) {i j : Nat} (hj : j ∈ a.chain i) :
    j ∈ b.chain i :=
  (hab.chainFrom_prefix (Nat.succ_le_succ hab.size_le) (some i)).subset hj

end Extends

/-! ## Sound references -/

/-- Every reference of the arena that resolved names a binding of its own name, in a scope on
its chain that declares that name. -/
def Sound (a : Arena) : Prop :=
  ∀ r ∈ a.references.toList, ∀ key, r.binding = some key →
    key.2 = r.name ∧ key.1 ∈ a.chain r.scope ∧ a.declares key.1 r.name = true

/-- Extending an arena by anything but references keeps it sound. -/
theorem Sound.of_extends {a b : Arena} (h : a.Sound) (hab : a.Extends b)
    (hrefs : b.references = a.references) : b.Sound := by
  intro r hr key hkey
  rw [hrefs] at hr
  obtain ⟨hname, hchain, hdecl⟩ := h r hr key hkey
  exact ⟨hname, hab.mem_chain hchain, hab.declares hdecl⟩

/-- Changing only the scopes of a sound arena, each to one that extends it, keeps it sound. -/
theorem Sound.withScopes {a : Arena} (h : a.Sound) {S : Array Scope} (hS : ScopesExtend a.scopes S) :
    ({ a with scopes := S } : Arena).Sound ∧ a.Extends { a with scopes := S } :=
  ⟨h.of_extends ⟨hS, List.prefix_refl _⟩ rfl, ⟨hS, List.prefix_refl _⟩⟩

/-! ## The references an arena holds -/

/-- The name and place of each reference, in the order they were made. -/
def sites (a : Arena) : List (String × Span) := a.references.toList.map fun r => (r.name, r.span)

end Arena

/-- The name and place of an identifier, and nothing for another node. -/
def Node.site : Node → List (String × Span)
  | .identifier sp name => [(name, sp)]
  | _ => []

namespace ScopeBuilder

/-- A step of the builder that, from a sound arena, extends it, keeps it sound, and appends
references of exactly the names and places `L`, in order. -/
def Adds {α : Type} (m : ScopeM α) (L : List (String × Span)) : Prop :=
  ∀ a, a.Sound → (Id.run (m.run a)).2.Sound ∧ a.Extends (Id.run (m.run a)).2 ∧
    (Id.run (m.run a)).2.sites = a.sites ++ L

namespace Adds

variable {α β : Type} {L L₁ L₂ : List (String × Span)}

theorem pure (x : α) : Adds (Pure.pure x : ScopeM α) [] :=
  fun a h => ⟨h, Arena.Extends.refl a, (List.append_nil _).symm⟩

theorem bind {m : ScopeM α} {f : α → ScopeM β} (hm : Adds m L₁) (hf : ∀ x, Adds (f x) L₂) :
    Adds (m >>= f) (L₁ ++ L₂) := by
  intro a h
  obtain ⟨h₁, hab, hs₁⟩ := hm a h
  obtain ⟨h₂, hbc, hs₂⟩ := hf _ _ h₁
  simp only [StateT.run_bind, Id.run_bind]
  exact ⟨h₂, hab.trans hbc, by rw [hs₂, hs₁, List.append_assoc]⟩

/-- A step that adds nothing, then one that adds `L`. -/
theorem nil_bind {m : ScopeM α} {f : α → ScopeM β} (hm : Adds m []) (hf : ∀ x, Adds (f x) L) :
    Adds (m >>= f) L :=
  bind hm hf

/-- A step that adds `L`, then one that adds nothing. -/
theorem bind_nil {m : ScopeM α} {f : α → ScopeM β} (hm : Adds m L) (hf : ∀ x, Adds (f x) []) :
    Adds (m >>= f) L := by
  simpa using bind hm hf

theorem congr {m : ScopeM α} (h : Adds m L₁) (hL : L₁ = L₂) : Adds m L₂ := hL ▸ h

theorem get_bind {f : Arena → ScopeM β} (hf : ∀ a, Adds (f a) L) : Adds (get >>= f) L :=
  fun a h => hf a a h

/-- A change of the arena that keeps it sound, extends it and leaves its references alone
adds nothing. -/
theorem of_modify {f : Arena → Arena}
    (hf : ∀ a, a.Sound → (f a).Sound ∧ a.Extends (f a) ∧ (f a).references = a.references) :
    Adds (modify f : ScopeM PUnit) [] := by
  intro a h
  obtain ⟨h₁, hab, hrefs⟩ := hf a h
  refine ⟨h₁, hab, ?_⟩
  show (f a).sites = a.sites ++ []
  simp [Arena.sites, hrefs]

/-- Changing the scopes so that each one extends itself adds nothing. -/
theorem modifyScopes {g : Arena → Array Scope} (hg : ∀ a, Arena.ScopesExtend a.scopes (g a)) :
    Adds (modify fun a => { a with scopes := g a } : ScopeM PUnit) [] :=
  of_modify fun a h => ⟨(h.withScopes (hg a)).1, (h.withScopes (hg a)).2, rfl⟩

/-- A loop adds what each of its rounds adds, in order. -/
theorem forM {xs : List β} {f : β → ScopeM PUnit} {L : β → List (String × Span)}
    (h : ∀ x ∈ xs, Adds (f x) (L x)) : Adds (xs.forM f) (xs.flatMap L) := by
  induction xs with
  | nil => exact pure _
  | cons x xs ih =>
    exact bind (h x List.mem_cons_self) fun _ => ih fun y hy => h y (List.mem_cons_of_mem _ hy)

theorem forM_nil {xs : List β} {f : β → ScopeM PUnit} (h : ∀ x ∈ xs, Adds (f x) []) :
    Adds (xs.forM f) [] :=
  (forM h).congr (by simp)

/-- A loop over the members of a list, each with its proof of membership. -/
theorem forM_attach {xs : List β} {f : {x // x ∈ xs} → ScopeM PUnit} {L : β → List (String × Span)}
    (h : ∀ x (hx : x ∈ xs), Adds (f ⟨x, hx⟩) (L x)) : Adds (xs.attach.forM f) (xs.flatMap L) := by
  have hall : Adds (xs.attach.forM f) (xs.attach.flatMap fun x => L x.1) :=
    forM fun ⟨x, hx⟩ _ => h x hx
  rwa [List.flatMap_subtype (fun _ _ => rfl), List.unattach_attach] at hall

end Adds

theorem addScope_adds (kind : ScopeKind) (node : Node) (parent : Option Nat) :
    Adds (addScope kind node parent) [] := by
  intro a h
  have hS : Arena.ScopesExtend a.scopes (Id.run ((addScope kind node parent).run a)).2.scopes := by
    cases parent with
    | none => exact Arena.ScopesExtend.push _ _
    | some p =>
      -- only the parent's children change
      exact (Arena.ScopesExtend.push _ _).trans
        (Arena.ScopesExtend.modify _ p fun _ => ⟨rfl, fun _ hn => hn⟩)
  exact ⟨(h.withScopes hS).1, (h.withScopes hS).2, (List.append_nil _).symm⟩

/-- Changing bindings without renaming them adds nothing. -/
theorem updateBinding_adds (key : BindingKey) {f : Binding → Binding}
    (hf : ∀ b, (f b).name = b.name) : Adds (updateBinding key f) [] := by
  have hname : ∀ b : Binding, (if b.name == key.2 then f b else b).name = b.name := by
    intro b
    split <;> simp [hf]
  unfold updateBinding
  exact Adds.modifyScopes fun a => Arena.ScopesExtend.modify _ _ fun s =>
    ⟨rfl, fun name hn => by simpa only [List.any_map, Function.comp_def, hname] using hn⟩

theorem declare_adds (i : Nat) (ident : Node) (kind : BindingKind) :
    Adds (declare i ident kind) [] := by
  have hdeclared : ∀ entry : Nat × BindingKey,
      Adds (modify fun a => { a with declared := entry :: a.declared } : ScopeM PUnit) [] :=
    fun _ => Adds.of_modify fun a h =>
      ⟨h.of_extends ⟨Arena.ScopesExtend.refl _, List.prefix_refl _⟩ rfl,
        ⟨Arena.ScopesExtend.refl _, List.prefix_refl _⟩, rfl⟩
  cases ident
  case identifier sp name =>
    refine Adds.get_bind fun a => ?_
    cases a.scope? i with
    | none => exact Adds.pure _
    | some s =>
      dsimp only
      split
      · -- a name declared again gains an identifier
        exact Adds.nil_bind (updateBinding_adds _ fun b => by split <;> rfl) fun _ =>
          Adds.nil_bind (hdeclared _) fun _ => Adds.pure _
      · -- a new name is appended to the scope's bindings
        refine Adds.nil_bind (Adds.modifyScopes fun a => Arena.ScopesExtend.modify _ _ fun s =>
          ⟨rfl, fun name hn => by simp [List.any_append, hn]⟩) fun _ =>
            Adds.nil_bind (hdeclared _) fun _ => Adds.pure _
  all_goals exact Adds.pure _

theorem declareInitialized_adds (i : Nat) (ident : Node) (kind : BindingKind) :
    Adds (declareInitialized i ident kind) [] := by
  refine Adds.nil_bind (declare_adds _ _ _) fun key => ?_
  cases key with
  | none => exact Adds.pure _
  | some key => exact updateBinding_adds _ fun _ => rfl

/-- A reference is added resolved in the arena it is added to, so it is sound there and in
every arena that extends that one. -/
theorem addReference_adds (ident : Node) (i : Nat) (read write : Bool) :
    Adds (addReference ident i read write) ident.site := by
  cases ident
  case identifier sp name =>
    intro a h
    let r : Reference :=
      { name, span := sp, scope := i, functionScope := ((a.scope? i).map (·.functionScope)).getD i,
        binding := a.resolve name i, isRead := read, isWrite := write }
    have hext : a.Extends { a with references := a.references.push r } :=
      ⟨Arena.ScopesExtend.refl _, by simp⟩
    show Arena.Sound { a with references := a.references.push r } ∧ _ ∧
      Arena.sites { a with references := a.references.push r } = a.sites ++ [(name, sp)]
    refine ⟨?_, hext, by simp [Arena.sites, r]⟩
    intro r' hr' key hkey
    simp only [Array.toList_push, List.mem_append, List.mem_singleton] at hr'
    rcases hr' with hr' | rfl
    · obtain ⟨hname, hchain, hdecl⟩ := h r' hr' key hkey
      exact ⟨hname, hext.mem_chain hchain, hext.declares hdecl⟩
    · obtain ⟨hname, hchain, hdecl⟩ := Arena.mem_chain_of_resolve hkey
      exact ⟨hname, hext.mem_chain hchain, hext.declares hdecl⟩
  all_goals exact Adds.pure _

theorem declare_adds_unit (i : Nat) (kind : BindingKind) (ident : Node) :
    Adds (do let _ ← declare i ident kind : ScopeM PUnit) [] :=
  Adds.nil_bind (declare_adds _ _ _) fun _ => Adds.pure _

/-- Declaring a name only where its identifier declares nothing yet adds nothing. -/
theorem declareUnlessDeclared_adds (i : Nat) (ident : Node) (kind : BindingKind) :
    Adds (do if ((← get).declaredAt ident.span.start.offset).isNone then
      let _ ← declare i ident kind) [] := by
  refine Adds.get_bind fun a => ?_
  split
  · exact declare_adds_unit _ _ _
  · exact Adds.pure _

theorem forM_declarators_adds (ds : List Node) {f : Node → ScopeM PUnit}
    (hf : ∀ x, Adds (f x) []) :
    Adds (ds.forM fun d => match d with
      | .variableDeclarator _ t _ => (patternIdentifiers t).forM f
      | _ => pure ()) [] := by
  refine Adds.forM_nil fun d _ => ?_
  split
  · exact Adds.forM_nil fun x _ => hf x
  · exact Adds.pure _

theorem hoistVars_adds (n : Node) (s : Nat) : Adds (hoistVars n s) [] := by
  rw [hoistVars]
  refine Adds.forM_nil fun ⟨c, hc⟩ _ => ?_
  dsimp only
  split
  · exact Adds.pure _
  · -- a `var` declaration declares its names, and every other child is searched below
    split
    · exact Adds.nil_bind (forM_declarators_adds _ (declare_adds_unit _ _)) fun _ =>
        hoistVars_adds _ s
    · exact hoistVars_adds _ s
termination_by sizeOf n
decreasing_by all_goals exact Node.sizeOf_lt_of_mem_children hc

theorem hoistLexical_adds (statements : List Node) (scope : Nat) :
    Adds (hoistLexical statements scope) [] := by
  refine Adds.forM_nil fun st _ => ?_
  dsimp only
  split
  · split
    · exact forM_declarators_adds _ (declare_adds_unit _ _)
    · exact Adds.pure _
  · exact declare_adds_unit _ _ _
  · exact declare_adds_unit _ _ _
  · refine Adds.forM_nil fun spec _ => ?_
    split
    · exact declare_adds_unit _ _ _
    · exact declare_adds_unit _ _ _
    · exact declare_adds_unit _ _ _
    · exact Adds.pure _
  · exact Adds.pure _

theorem markInitialized_adds (p : Node) : Adds (markInitialized p) [] := by
  refine Adds.forM_nil fun ident _ => Adds.get_bind fun a => ?_
  split
  · exact updateBinding_adds _ fun _ => rfl
  · exact Adds.pure _

theorem markExported_adds (d : Node) : Adds (markExported d) [] := by
  refine Adds.forM_nil fun ident _ => Adds.get_bind fun a => ?_
  split
  · exact updateBinding_adds _ fun _ => rfl
  · exact Adds.pure _

end ScopeBuilder

end ScriptGate
