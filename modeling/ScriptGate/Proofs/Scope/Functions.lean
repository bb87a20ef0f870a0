import ScriptGate.Proofs.Scope.References

/-!
# The function each name lies in

`Node.LiesIn P n f` says, from the shape of the tree alone, that an occurrence of `n` in `P`
lies in `f`: the innermost function, arrow, static block or program around it.  The name of a
function lies outside it, in what the function lies in.

*Placed arenas.*  The builder records for every scope, binding and reference the scope of its
function.  An arena is placed in `P` (`Arena.Placed`) when those records agree with the tree:
each scope shares its parent's function scope or is a function scope of its own, opened on a
node strictly inside its parent's function; the first identifier of each binding and the
identifier of each reference lie in `P` in the function whose scope they record.  A step that
keeps every scope where it was, with its node, parent and function scope (`Arena.Keeps`),
keeps all of that but what it adds (`Arena.Placed.of_keeps`).

*Steps.*  `ScopeBuilder.Places P m i g` says that the step `m`, run where scope `i` is in the
function opened by `g`, keeps an arena placed.  Declaring or recording an identifier that lies in
`g` does (`declare_places`, `addReference_places`), and so does opening a scope in the function
of its parent or as a function of its own on a node strictly inside it (`addScope_bind_places`).
Hoisting `var` declarations stops at functions and classes, so it stays in one function as long
as the tree has the shape of one read from a text (`Node.nestsIn`): a static block stands only
in a class body, a class body only in a class, and no program below the top
(`hoistVars_places`).

Identifiers that start at the same place lie in the same function in every tree read from a text
(`Node.PlacesFunctions`); the arena finds an identifier's reference by where it starts.
-/

namespace ScriptGate

namespace Node

/-! ## The function a node lies in -/

/-- Whether a node opens a function of its own: a function, an arrow, a static block or a
program. -/
def opensFunction : Node → Bool
  | functionDeclaration .. | functionExpression .. | arrowFunctionExpression .. | staticBlock ..
  | program .. => true
  | _ => false

/-- The name of a function declaration or expression. -/
def functionName? : Node → Option Node
  | functionDeclaration _ i .. | functionExpression _ i .. => i
  | _ => none

/-- The children of a node other than the name of a function. -/
def innerChildren : Node → List Node
  | functionDeclaration _ _ ps b .. | functionExpression _ _ ps b .. => ps ++ [b]
  | n => n.children

theorem children_eq (n : Node) : n.children = n.functionName?.toList ++ n.innerChildren := by
  cases n <;> simp [children, functionName?, innerChildren]

theorem mem_children_of_mem_innerChildren {n c : Node} (h : c ∈ n.innerChildren) :
    c ∈ n.children := by
  rw [children_eq]
  exact List.mem_append_right _ h

theorem innerChildren_of_functionName?_eq_none {n : Node} (h : n.functionName? = none) :
    n.innerChildren = n.children := by
  rw [children_eq, h]
  rfl

/-- `LiesIn P n f`: an occurrence of `n` in the tree `P` lies in `f`, the innermost function,
arrow, static block or program around it; the root lies in itself.  The name of a function
lies outside it, in what the function lies in. -/
inductive LiesIn (P : Node) : Node → Node → Prop where
  | root : LiesIn P P P
  | name {n f c : Node} : LiesIn P n f → n.functionName? = some c → LiesIn P c f
  | inner {n f c : Node} : LiesIn P n f → c ∈ n.innerChildren →
      LiesIn P c (if n.opensFunction then n else f)

/-- A node lies strictly inside its function, the root apart. -/
theorem LiesIn.sizeOf_lt {P n f : Node} (h : LiesIn P n f) :
    (n = P ∧ f = P) ∨ sizeOf n < sizeOf f := by
  induction h with
  | root => exact .inl ⟨rfl, rfl⟩
  | @name n f c _ hc ih =>
    have hlt : sizeOf c < sizeOf n :=
      sizeOf_lt_of_mem_children (by rw [children_eq, hc]; exact List.mem_append_left _ (by simp))
    refine .inr ?_
    rcases ih with ⟨rfl, rfl⟩ | ih <;> omega
  | @inner n f c _ hc ih =>
    have hlt := sizeOf_lt_of_mem_children (mem_children_of_mem_innerChildren hc)
    refine .inr ?_
    split
    · exact hlt
    · rcases ih with ⟨rfl, rfl⟩ | ih <;> omega

/-- A child that is not a function's name lies where the node's children lie. -/
theorem LiesIn.child {P n f c : Node} (h : LiesIn P n f) (hc : c ∈ n.children)
    (hname : n.functionName? = none) : LiesIn P c (if n.opensFunction then n else f) :=
  h.inner (by rwa [innerChildren_of_functionName?_eq_none hname])

/-- A child of a node that opens no function lies where the node does. -/
theorem LiesIn.descend {P n f c : Node} (h : LiesIn P n f) (hc : c ∈ n.children)
    (hopen : n.opensFunction = false) : LiesIn P c f := by
  have hname : n.functionName? = none := by
    cases n <;> simp_all [opensFunction, functionName?]
  simpa [hopen] using h.child hc hname

/-- What a statement declares, through an export around it, lies where the statement does. -/
theorem LiesIn.exported {P st D f : Node}
    (hD : (match st with
      | exportNamedDeclaration _ d .. => d
      | exportDefaultDeclaration _ d => some d
      | s => some s) = some D) (h : LiesIn P st f) : LiesIn P D f := by
  cases st
  case exportNamedDeclaration sp d specs src =>
    simp only at hD
    subst hD
    exact h.descend (by simp [children]) rfl
  case exportDefaultDeclaration sp d =>
    simp only [Option.some.injEq] at hD
    subst hD
    exact h.descend (by simp [children]) rfl
  all_goals
    simp only [Option.some.injEq] at hD
    exact hD ▸ h

mutual

/-- The leaves of a pattern lie where the pattern lies. -/
theorem LiesIn.patternLeaf {P f x : Node} (p : Node) (hp : LiesIn P p f)
    (hx : x ∈ p.patternLeaves) : LiesIn P x f := by
  cases p
  case objectPattern sp props =>
    rw [patternLeaves] at hx
    exact LiesIn.propertyLeaf props (fun q hq => hp.child (by simpa [children] using hq) rfl) hx
  case arrayPattern sp es =>
    rw [patternLeaves] at hx
    exact LiesIn.elementLeaf es (fun e he => hp.child (by simpa [children] using he) rfl) hx
  case restElement sp a =>
    rw [patternLeaves] at hx
    exact LiesIn.patternLeaf a (hp.child (by simp [children]) rfl) hx
  case assignmentPattern sp l r =>
    rw [patternLeaves] at hx
    exact LiesIn.patternLeaf l (hp.child (by simp [children]) rfl) hx
  -- every other node is its own leaf
  all_goals
    simp only [patternLeaves, List.mem_singleton] at hx
    exact hx ▸ hp
termination_by structural p

theorem LiesIn.propertyLeaf {P f x : Node} (props : List Node) (hq : ∀ q ∈ props, LiesIn P q f)
    (hx : x ∈ propertyLeaves props) : LiesIn P x f := by
  cases props with
  | nil => simp [propertyLeaves] at hx
  | cons q props =>
    have hrest : ∀ q' ∈ props, LiesIn P q' f := fun q' h => hq q' (List.mem_cons_of_mem _ h)
    -- a property enters through its value, any other entry is a pattern of its own
    cases q
    case property sp k v kind computed method shorthand =>
      simp only [propertyLeaves, List.mem_append] at hx
      rcases hx with hx | hx
      · exact LiesIn.patternLeaf v ((hq _ List.mem_cons_self).child (by simp [children]) rfl) hx
      · exact LiesIn.propertyLeaf props hrest hx
    all_goals
      simp only [propertyLeaves, List.mem_append] at hx
      rcases hx with hx | hx
      · exact LiesIn.patternLeaf _ (hq _ List.mem_cons_self) hx
      · exact LiesIn.propertyLeaf props hrest hx
termination_by structural props

theorem LiesIn.elementLeaf {P f x : Node} (es : List (Option Node))
    (he : ∀ e, some e ∈ es → LiesIn P e f) (hx : x ∈ elementLeaves es) : LiesIn P x f := by
  cases es with
  | nil => simp [elementLeaves] at hx
  | cons e es =>
    have hrest : ∀ e', some e' ∈ es → LiesIn P e' f := fun e' h => he e' (List.mem_cons_of_mem _ h)
    cases e with
    | some e =>
      simp only [elementLeaves, List.mem_append] at hx
      rcases hx with hx | hx
      · exact LiesIn.patternLeaf e (he e List.mem_cons_self) hx
      · exact LiesIn.elementLeaf es hrest hx
    | none =>
      simp only [elementLeaves] at hx
      exact LiesIn.elementLeaf es hrest hx
termination_by structural es

end

/-- The identifiers a pattern introduces lie where the pattern lies. -/
theorem LiesIn.patternIdentifier {P p f x : Node} (hp : LiesIn P p f)
    (hx : x ∈ ScopeBuilder.patternIdentifiers p) : LiesIn P x f := by
  rw [patternIdentifiers_eq_filter] at hx
  exact LiesIn.patternLeaf p hp (List.mem_filter.1 hx).1

/-! ## The shape of a tree read from a text -/

/-- Whether a node is a class body. -/
def isClassBody : Node → Bool
  | classBody .. => true
  | _ => false

/-- Whether a tree has the shape of one read from a text, below its top: it holds no program,
a static block stands only in a class body, and a class body only in a class.  The flags say
whether the tree stands in a class body and whether in a class. -/
def nestsIn (inClassBody inClass : Bool) (n : Node) : Bool :=
  (match n with
    | program .. => false
    | staticBlock .. => inClassBody
    | classBody .. => inClass
    | _ => true) &&
    n.children.attach.all fun ⟨c, _⟩ => c.nestsIn n.isClassBody (ScopeBuilder.isClass n)
termination_by sizeOf n
decreasing_by exact sizeOf_lt_of_mem_children ‹_›

theorem nestsIn_child {x y : Bool} {n c : Node} (h : n.nestsIn x y = true) (hc : c ∈ n.children) :
    c.nestsIn n.isClassBody (ScopeBuilder.isClass n) = true := by
  rw [nestsIn.eq_def] at h
  simp only [Bool.and_eq_true, List.all_eq_true] at h
  exact h.2 ⟨c, hc⟩ (List.mem_attach _ _)

/-- Outside class bodies and classes, only functions and arrows open functions, and no node
is a class body. -/
theorem opensFunction_of_nestsIn {n : Node} (h : n.nestsIn false false = true) :
    n.opensFunction = n.isFunction ∧ n.isClassBody = false := by
  rw [nestsIn.eq_def] at h
  simp only [Bool.and_eq_true] at h
  have hself := h.1
  cases n <;> simp_all [opensFunction, isFunction, isClassBody]

/-- A program with the shape of one read from a text. -/
structure WellShaped (P : Node) : Prop where
  program : ∃ sp body isModule, P = program sp body isModule
  nests : ∀ c ∈ P.children, c.nestsIn false false = true

/-- Identifiers of `P` that start at the same place lie in the same function.  In a tree read
from a text such identifiers are one word read twice, as the key and the value of a
shorthand property are. -/
def PlacesFunctions (P : Node) : Prop :=
  ∀ sp sp' name name' f f', LiesIn P (identifier sp name) f → LiesIn P (identifier sp' name') f' →
    sp.start.offset = sp'.start.offset → f = f'

end Node

/-- What the builder never changes in a scope: its node, its parent and its function scope. -/
def Scope.core (s : Scope) : Node × Option Nat × Nat := (s.node, s.parent, s.functionScope)

/-- What the builder never changes in a binding: its name, scope, function scope and first
identifier. -/
def Binding.core (b : Binding) : String × Nat × Nat × Option Span :=
  (b.name, b.scope, b.functionScope, b.identifiers.head?)

namespace Arena

/-! ## Arenas whose scopes nest as functions do -/

/-- The node that opens the function scope of scope `i`. -/
def functionNode (a : Arena) (i : Nat) : Option Node :=
  (a.scope? i).bind fun s => (a.scope? s.functionScope).map (·.node)

/-- How a scope stands to its parent: without one it is its own function scope; otherwise it
shares its parent's function scope, or opens its own on a node strictly inside the parent's
function. -/
def ScopeNests (a : Arena) (i : Nat) (s : Scope) : Prop :=
  (a.scope? s.functionScope).isSome ∧
    match s.parent with
    | none => s.functionScope = i
    | some p => ∃ ps, a.scope? p = some ps ∧ (s.functionScope = ps.functionScope ∨
        s.functionScope = i ∧ ∃ g, a.functionNode p = some g ∧ sizeOf s.node < sizeOf g)

/-- A binding of scope `i` has the scope's function, and its first identifier is one of `P`
that lies in that function. -/
def BindingPlaced (P : Node) (a : Arena) (i : Nat) (s : Scope) (b : Binding) : Prop :=
  b.scope = i ∧ b.functionScope = s.functionScope ∧ ∃ sp f, b.identifiers.head? = some sp ∧
    Node.LiesIn P (.identifier sp b.name) f ∧ a.functionNode i = some f

/-- A reference has the function of its scope, and was made for an identifier of `P` that
lies in that function. -/
def ReferencePlaced (P : Node) (a : Arena) (r : Reference) : Prop :=
  ∃ s, a.scope? r.scope = some s ∧ r.functionScope = s.functionScope ∧
    ∃ f, Node.LiesIn P (.identifier r.span r.name) f ∧ a.functionNode r.scope = some f

/-- The scopes of `a` nest as the functions of `P` do, and each binding and reference stands in
the function of `P` its identifier lies in. -/
structure Placed (P : Node) (a : Arena) : Prop where
  scopes : ∀ i s, a.scope? i = some s → a.ScopeNests i s
  bindings : ∀ i s, a.scope? i = some s → ∀ b ∈ s.bindings, BindingPlaced P a i s b
  references : ∀ r ∈ a.references.toList, ReferencePlaced P a r

/-- `b` keeps the scopes of `a`: each stands in `b` at its index, with the same core. -/
def Keeps (a b : Arena) : Prop :=
  ∀ i s, a.scope? i = some s → ∃ s', b.scope? i = some s' ∧ s'.core = s.core

namespace Keeps

theorem refl (a : Arena) : a.Keeps a := fun _ s h => ⟨s, h, rfl⟩

theorem trans {a b c : Arena} (hab : a.Keeps b) (hbc : b.Keeps c) : a.Keeps c := by
  intro i s hs
  obtain ⟨s', hs', hcore⟩ := hab i s hs
  obtain ⟨s'', hs'', hcore'⟩ := hbc i s' hs'
  exact ⟨s'', hs'', hcore'.trans hcore⟩

theorem functionNode {a b : Arena} (hab : a.Keeps b) {i : Nat} {g : Node}
    (h : a.functionNode i = some g) : b.functionNode i = some g := by
  simp only [Arena.functionNode, Option.bind_eq_some_iff, Option.map_eq_some_iff] at h ⊢
  obtain ⟨s, hs, t, ht, rfl⟩ := h
  obtain ⟨s', hs', hcore⟩ := hab i s hs
  obtain ⟨t', ht', hcore'⟩ := hab s.functionScope t ht
  simp only [Scope.core, Prod.mk.injEq] at hcore hcore'
  exact ⟨s', hs', t', by rw [hcore.2.2]; exact ht', hcore'.1⟩

end Keeps

theorem ScopeNests.of_keeps {a b : Arena} (hk : a.Keeps b) {i : Nat} {s s' : Scope}
    (h : a.ScopeNests i s) (hcore : s.core = s'.core) : b.ScopeNests i s' := by
  simp only [Scope.core, Prod.mk.injEq] at hcore
  obtain ⟨hnode, hpar, hfs⟩ := hcore
  obtain ⟨hsome, hparent⟩ := h
  refine ⟨?_, ?_⟩
  · obtain ⟨t, ht⟩ := Option.isSome_iff_exists.1 hsome
    obtain ⟨t', ht', -⟩ := hk _ t ht
    simp [← hfs, ht']
  · rw [← hpar, ← hnode, ← hfs]
    cases hp : s.parent with
    | none => simpa [hp] using hparent
    | some p =>
      simp only [hp] at hparent
      obtain ⟨ps, hps, hcases⟩ := hparent
      obtain ⟨ps', hps', hpcore⟩ := hk p ps hps
      simp only [Scope.core, Prod.mk.injEq] at hpcore
      refine ⟨ps', hps', ?_⟩
      rw [hpcore.2.2]
      rcases hcases with hsame | ⟨hown, g, hg, hlt⟩
      · exact .inl hsame
      · exact .inr ⟨hown, g, hk.functionNode hg, hlt⟩

theorem BindingPlaced.of_keeps {P : Node} {a b : Arena} (hk : a.Keeps b) {i : Nat}
    {s s' : Scope} {x x' : Binding} (h : BindingPlaced P a i s x) (hcore : s.core = s'.core)
    (hx : x.core = x'.core) : BindingPlaced P b i s' x' := by
  simp only [Scope.core, Binding.core, Prod.mk.injEq] at hcore hx
  obtain ⟨hscope, hfs, sp, f, hhead, hlies, hfn⟩ := h
  refine ⟨hx.2.1 ▸ hscope, ?_, sp, f, hx.2.2.2 ▸ hhead, hx.1 ▸ hlies, hk.functionNode hfn⟩
  rw [← hx.2.2.1, hfs, hcore.2.2]

theorem ReferencePlaced.of_keeps {P : Node} {a b : Arena} (hk : a.Keeps b) {r : Reference}
    (h : ReferencePlaced P a r) : ReferencePlaced P b r := by
  obtain ⟨s, hs, hfs, f, hlies, hfn⟩ := h
  obtain ⟨s', hs', hcore⟩ := hk _ s hs
  simp only [Scope.core, Prod.mk.injEq] at hcore
  exact ⟨s', hs', hcore.2.2 ▸ hfs, f, hlies, hk.functionNode hfn⟩

/-- An arena that keeps the scopes of a placed one is placed, when each of its scopes is an old
one whose bindings have the cores of old ones or are placed, or a new one that nests and whose
bindings are placed, and each of its references is old or placed. -/
theorem Placed.of_keeps {P : Node} {a b : Arena} (h : a.Placed P) (hk : a.Keeps b)
    (hscopes : ∀ i s', b.scope? i = some s' →
      (∃ s, a.scope? i = some s ∧ s.core = s'.core ∧ ∀ x' ∈ s'.bindings,
        (∃ x ∈ s.bindings, x.core = x'.core) ∨ BindingPlaced P b i s' x') ∨
      (b.ScopeNests i s' ∧ ∀ x' ∈ s'.bindings, BindingPlaced P b i s' x'))
    (hrefs : ∀ r ∈ b.references.toList, r ∈ a.references.toList ∨ ReferencePlaced P b r) :
    b.Placed P := by
  refine ⟨fun i s' hs' => ?_, fun i s' hs' x' hx' => ?_, fun r hr => ?_⟩
  · rcases hscopes i s' hs' with ⟨s, hs, hcore, -⟩ | ⟨hnests, -⟩
    · exact (h.scopes i s hs).of_keeps hk hcore
    · exact hnests
  · rcases hscopes i s' hs' with ⟨s, hs, hcore, hbind⟩ | ⟨-, hbind⟩
    · rcases hbind x' hx' with ⟨x, hx, hxcore⟩ | hplaced
      · exact (h.bindings i s hs x hx).of_keeps hk hcore hxcore
      · exact hplaced
    · exact hbind x' hx'
  · rcases hrefs r hr with hr | hplaced
    · exact (h.references r hr).of_keeps hk
    · exact hplaced

/-- Changing one scope without changing its core keeps every scope. -/
theorem keeps_modify (a : Arena) (k : Nat) {F : Scope → Scope} (hF : ∀ s, (F s).core = s.core) :
    a.Keeps { a with scopes := a.scopes.modify k F } := by
  intro i s hs
  simp only [scope?, Array.getElem?_modify] at hs ⊢
  rw [hs]
  split
  · exact ⟨F s, rfl, hF s⟩
  · exact ⟨s, rfl, rfl⟩

/-- Changing one scope, without changing its core, so that each of its bindings afterwards
has the core of one before or is placed, keeps a placed arena placed. -/
theorem Placed.modify {P : Node} {a : Arena} (h : a.Placed P) (k : Nat) {F : Scope → Scope}
    (hF : ∀ s, (F s).core = s.core)
    (hbind : ∀ s, a.scope? k = some s → ∀ x' ∈ (F s).bindings,
      (∃ x ∈ s.bindings, x.core = x'.core) ∨ BindingPlaced P a k s x') :
    Placed P { a with scopes := a.scopes.modify k F } ∧ a.Keeps { a with scopes := a.scopes.modify k F } := by
  have hk := keeps_modify a k hF
  refine ⟨h.of_keeps hk (fun i s' hs' => .inl ?_) (fun r hr => .inl hr), hk⟩
  simp only [scope?, Array.getElem?_modify] at hs'
  split at hs'
  case isTrue hki =>
    subst hki
    obtain ⟨s, hs, rfl⟩ := Option.map_eq_some_iff.1 hs'
    refine ⟨s, hs, (hF s).symm, fun x' hx' => ?_⟩
    rcases hbind s hs x' hx' with hold | hnew
    · exact .inl hold
    · exact .inr (hnew.of_keeps hk (hF s).symm rfl)
  case isFalse =>
    exact ⟨s', hs', rfl, fun x' hx' => .inl ⟨x', hx', rfl⟩⟩

/-- The arena with the scope `sc` appended inside scope `i`, among whose children it is
recorded: what opening a scope does. -/
def withChildScope (a : Arena) (i : Nat) (sc : Scope) : Arena :=
  { a with scopes := (a.scopes.push sc).modify i fun s =>
      { s with children := s.children ++ [a.scopes.size] } }

theorem scope?_withChildScope (a : Arena) {i : Nat} (hi : i < a.scopes.size) (sc : Scope) (j : Nat) :
    (a.withChildScope i sc).scope? j =
      if j = a.scopes.size then some sc
      else (a.scope? j).map fun s => if i = j then { s with children := s.children ++ [a.scopes.size] } else s := by
  simp only [withChildScope, scope?, Array.getElem?_modify, Array.getElem?_push]
  by_cases hj : j = a.scopes.size
  · subst hj
    simp [show i ≠ a.scopes.size by omega]
  · by_cases hij : i = j
    · subst hij
      simp [hj]
    · simp [hj, hij]

theorem keeps_withChildScope (a : Arena) {i : Nat} (hi : i < a.scopes.size) (sc : Scope) :
    a.Keeps (a.withChildScope i sc) := by
  intro j s hs
  have hj : j < a.scopes.size := by
    simp only [scope?] at hs
    exact (Array.getElem?_eq_some_iff.1 hs).1
  rw [scope?_withChildScope a hi, if_neg (by omega), hs]
  exact ⟨_, rfl, by split <;> rfl⟩

/-- Opening a scope inside scope `i`, either in the function of `i` or as a function of its own
on a node strictly inside that function, keeps a placed arena placed; the new scope lies in its
own function or in that of `i`. -/
theorem Placed.withChildScope {P : Node} {a : Arena} (h : a.Placed P) {i : Nat} {g : Node}
    (hi : a.functionNode i = some g) (kind : ScopeKind) (node : Node) (fsc : Nat)
    (hfsc : (∃ s, a.scope? i = some s ∧ fsc = s.functionScope) ∨
      fsc = a.scopes.size ∧ sizeOf node < sizeOf g) :
    (a.withChildScope i ⟨a.scopes.size, kind, node, some i, fsc, [], []⟩).Placed P ∧
      a.Keeps (a.withChildScope i ⟨a.scopes.size, kind, node, some i, fsc, [], []⟩) ∧
      (a.withChildScope i ⟨a.scopes.size, kind, node, some i, fsc, [], []⟩).functionNode a.scopes.size =
        if fsc = a.scopes.size then some node else some g := by
  obtain ⟨ps, hps, hfn⟩ := Option.bind_eq_some_iff.1 hi
  obtain ⟨t, ht, rfl⟩ := Option.map_eq_some_iff.1 hfn
  have hlt : i < a.scopes.size := by
    simp only [scope?] at hps
    exact (Array.getElem?_eq_some_iff.1 hps).1
  have htlt : ps.functionScope < a.scopes.size := by
    simp only [scope?] at ht
    exact (Array.getElem?_eq_some_iff.1 ht).1
  have hk := keeps_withChildScope a hlt ⟨a.scopes.size, kind, node, some i, fsc, [], []⟩
  have hnew : (a.withChildScope i ⟨a.scopes.size, kind, node, some i, fsc, [], []⟩).scope?
      a.scopes.size = some ⟨a.scopes.size, kind, node, some i, fsc, [], []⟩ := by
    rw [scope?_withChildScope a hlt, if_pos rfl]
  obtain ⟨ps', hps', hpcore⟩ := hk i ps hps
  obtain ⟨t', ht', htcore⟩ := hk _ t ht
  simp only [Scope.core, Prod.mk.injEq] at hpcore htcore
  -- the new scope is in the function of `i`, or is a function of its own
  have hcases : fsc = ps.functionScope ∨ fsc = a.scopes.size ∧ sizeOf node < sizeOf t.node := by
    rcases hfsc with ⟨s, hs, rfl⟩ | hown
    · rw [hps] at hs
      cases hs
      exact .inl rfl
    · exact .inr hown
  refine ⟨h.of_keeps hk (fun j s' hs' => ?_) (fun r hr => .inl hr), hk, ?_⟩
  · by_cases hj : j = a.scopes.size
    · subst hj
      rw [hnew] at hs'
      cases hs'
      refine .inr ⟨⟨?_, ps', hps', ?_⟩, fun _ hx => by cases hx⟩
      · rcases hcases with rfl | ⟨rfl, -⟩
        · simp [ht']
        · simp [hnew]
      · rcases hcases with rfl | ⟨rfl, hsize⟩
        · exact .inl hpcore.2.2.symm
        · exact .inr ⟨rfl, t.node, hk.functionNode hi, hsize⟩
    · rw [scope?_withChildScope a hlt, if_neg hj] at hs'
      obtain ⟨s, hs, rfl⟩ := Option.map_eq_some_iff.1 hs'
      refine .inl ⟨s, hs, by split <;> rfl, fun x' hx' => .inl ⟨x', ?_, rfl⟩⟩
      split at hx' <;> exact hx'
  · simp only [functionNode, hnew, Option.bind_some]
    rcases hcases with rfl | ⟨rfl, -⟩
    · rw [if_neg (by omega), ht']
      simp [htcore.1]
    · rw [if_pos rfl, hnew]
      rfl

end Arena

namespace ScopeBuilder

open Node Arena

/-! ## Steps of the builder that keep an arena placed -/

/-- A step of the builder from the arena `a`, where scope `i` lies in the function opened by
`g`: it keeps `a` placed in `P`, and keeps its scopes. -/
def PlacesFrom (P : Node) {α : Type} (m : ScopeM α) (i : Nat) (g : Node) (a : Arena) : Prop :=
  a.Placed P → a.functionNode i = some g →
    (Id.run (m.run a)).2.Placed P ∧ a.Keeps (Id.run (m.run a)).2

/-- A step of the builder that keeps every placed arena placed, run where scope `i` lies in
the function opened by `g`. -/
def Places (P : Node) {α : Type} (m : ScopeM α) (i : Nat) (g : Node) : Prop :=
  ∀ a, PlacesFrom P m i g a

namespace Places

variable {P : Node} {α β : Type} {i : Nat} {g : Node}

theorem pure (x : α) : Places P (Pure.pure x : ScopeM α) i g :=
  fun a h _ => ⟨h, Keeps.refl a⟩

theorem bindFrom {a : Arena} {m : ScopeM α} {f : α → ScopeM β} (hm : PlacesFrom P m i g a)
    (hf : ∀ x, Places P (f x) i g) : PlacesFrom P (m >>= f) i g a := by
  intro h hg
  obtain ⟨h₁, hk₁⟩ := hm h hg
  obtain ⟨h₂, hk₂⟩ := hf _ _ h₁ (hk₁.functionNode hg)
  simp only [StateT.run_bind, Id.run_bind]
  exact ⟨h₂, hk₁.trans hk₂⟩

theorem bind {m : ScopeM α} {f : α → ScopeM β} (hm : Places P m i g)
    (hf : ∀ x, Places P (f x) i g) : Places P (m >>= f) i g :=
  fun a => bindFrom (hm a) hf

/-- A step that looks at the arena, then does what the arena it saw says. -/
theorem get_bind {f : Arena → ScopeM β} (hf : ∀ a, PlacesFrom P (f a) i g a) :
    Places P (get >>= f) i g := fun a => hf a

theorem forM {xs : List β} {f : β → ScopeM PUnit} (h : ∀ x ∈ xs, Places P (f x) i g) :
    Places P (xs.forM f) i g := by
  induction xs with
  | nil => exact pure _
  | cons x xs ih =>
    exact bind (h x List.mem_cons_self) fun _ => ih fun y hy => h y (List.mem_cons_of_mem _ hy)

theorem forM_attach {xs : List β} {f : {x // x ∈ xs} → ScopeM PUnit}
    (h : ∀ x (hx : x ∈ xs), Places P (f ⟨x, hx⟩) i g) : Places P (xs.attach.forM f) i g :=
  forM fun ⟨x, hx⟩ _ => h x hx

end Places

variable {P : Node} {i : Nat} {g : Node}

/-- Changing bindings without changing the core of any that has an identifier keeps an arena
placed. -/
theorem updateBinding_places (key : BindingKey) {f : Binding → Binding}
    (hf : ∀ b, b.identifiers ≠ [] → (f b).core = b.core) : Places P (updateBinding key f) i g := by
  intro a h _
  refine h.modify key.1 (fun _ => rfl) fun s hs x' hx' => .inl ?_
  obtain ⟨x, hx, rfl⟩ := List.mem_map.1 hx'
  refine ⟨x, hx, ?_⟩
  split
  · -- a placed binding has a first identifier
    obtain ⟨-, -, sp, -, hhead, -⟩ := h.bindings key.1 s hs x hx
    exact (hf x fun hnil => by simp [hnil] at hhead).symm
  · rfl

theorem modifyDeclared_places (entry : Nat × BindingKey) :
    Places P (modify fun a => { a with declared := entry :: a.declared } : ScopeM PUnit) i g :=
  fun _ h _ => ⟨⟨h.scopes, h.bindings, h.references⟩, fun _ s hs => ⟨s, hs, rfl⟩⟩

/-- Declaring an identifier that lies in the function of scope `j` keeps an arena placed: a new
binding is first declared by it, an old one keeps its first identifier. -/
theorem declare_places {j : Nat} {ident : Node} {kind : BindingKind} (hident : LiesIn P ident g) :
    Places P (declare j ident kind) j g := by
  cases ident
  case identifier sp name =>
    refine Places.get_bind fun a => ?_
    cases hs : a.scope? j with
    | none => exact Places.pure _ a
    | some s =>
      dsimp only
      split
      · refine Places.bindFrom (updateBinding_places _ (fun b hb => ?_) a) fun _ =>
          Places.bind (modifyDeclared_places _) fun _ => Places.pure _
        split
        · rfl
        · obtain ⟨x, xs, hx⟩ := List.exists_cons_of_ne_nil hb
          simp [Binding.core, hx]
      · refine Places.bindFrom ?_ fun _ =>
          Places.bind (modifyDeclared_places _) fun _ => Places.pure _
        intro h hg
        refine h.modify j (fun _ => rfl) fun t ht x' hx' => ?_
        rw [hs] at ht
        cases ht
        rcases List.mem_append.1 hx' with hx' | hx'
        · exact .inl ⟨x', hx', rfl⟩
        · obtain rfl := List.mem_singleton.1 hx'
          exact .inr ⟨rfl, rfl, sp, g, rfl, hident, hg⟩
  all_goals exact Places.pure _

theorem declareInitialized_places {j : Nat} {ident : Node} {kind : BindingKind}
    (hident : LiesIn P ident g) : Places P (declareInitialized j ident kind) j g := by
  refine Places.bind (declare_places hident) fun key => ?_
  cases key with
  | none => exact Places.pure _
  | some key => exact updateBinding_places _ fun _ _ => rfl

/-- Opening a scope inside scope `i` appends it there, in its own function scope when it is a
module or function scope and in that of `i` otherwise. -/
theorem addScope_run (kind : ScopeKind) (node : Node) {a : Arena} {ps : Scope}
    (hps : a.scope? i = some ps) :
    Id.run ((addScope kind node (some i)).run a) =
      (a.scopes.size, a.withChildScope i ⟨a.scopes.size, kind, node, some i,
        if kind = .module ∨ kind = .function then a.scopes.size else ps.functionScope, [], []⟩) := by
  cases kind <;> simp [addScope, withChildScope, hps]

/-- Opening a scope inside scope `i` keeps an arena placed, when a function scope is opened on
a node strictly inside the function of `i`; what follows runs in the new scope, which lies in
the function it opens or in that of `i`. -/
theorem addScope_bind_places {kind : ScopeKind} {node : Node} {β : Type} {f : Nat → ScopeM β}
    {g' : Node} (hown : kind = .module ∨ kind = .function → g' = node ∧ sizeOf node < sizeOf g)
    (hinherit : ¬(kind = .module ∨ kind = .function) → g' = g)
    (hf : ∀ j, Places P (f j) j g') : Places P (addScope kind node (some i) >>= f) i g := by
  intro a h hg
  obtain ⟨ps, hps, -⟩ := Option.bind_eq_some_iff.1 hg
  have hpslt : ps.functionScope < a.scopes.size := by
    obtain ⟨t, ht⟩ := Option.isSome_iff_exists.1 (h.scopes i ps hps).1
    simp only [scope?] at ht
    exact (Array.getElem?_eq_some_iff.1 ht).1
  have hfsc : (∃ s, a.scope? i = some s ∧
        (if kind = .module ∨ kind = .function then a.scopes.size else ps.functionScope) =
          s.functionScope) ∨
      (if kind = .module ∨ kind = .function then a.scopes.size else ps.functionScope) =
        a.scopes.size ∧ sizeOf node < sizeOf g := by
    split
    case isTrue hk => exact .inr ⟨rfl, (hown hk).2⟩
    case isFalse => exact .inl ⟨ps, hps, rfl⟩
  obtain ⟨h₁, hk₁, hfn₁⟩ := h.withChildScope hg kind node _ hfsc
  have hfn : (a.withChildScope i ⟨a.scopes.size, kind, node, some i,
      if kind = .module ∨ kind = .function then a.scopes.size else ps.functionScope, [], []⟩).functionNode
        a.scopes.size = some g' := by
    rw [hfn₁]
    by_cases hk : kind = .module ∨ kind = .function
    · rw [if_pos hk, if_pos rfl, (hown hk).1]
    · rw [if_neg hk, if_neg (by omega), hinherit hk]
  obtain ⟨h₂, hk₂⟩ := hf a.scopes.size _ h₁ hfn
  simp only [StateT.run_bind, Id.run_bind] at h₂ hk₂ ⊢
  rw [addScope_run kind node hps]
  exact ⟨h₂, hk₁.trans hk₂⟩

/-- Opening a module scope with no parent keeps an arena placed; what follows runs in the new
scope, which is the function it opens. -/
theorem addScope_module_bind_places {node : Node} {β : Type} {f : Nat → ScopeM β}
    (hf : ∀ j, Places P (f j) j node) {a : Arena} (h : a.Placed P) :
    (Id.run ((addScope .module node none >>= f).run a)).2.Placed P ∧
      a.Keeps (Id.run ((addScope .module node none >>= f).run a)).2 := by
  let sc : Scope := ⟨a.scopes.size, .module, node, none, a.scopes.size, [], []⟩
  have hscope : ∀ j, ({ a with scopes := a.scopes.push sc } : Arena).scope? j =
      if j = a.scopes.size then some sc else a.scope? j := fun j => Array.getElem?_push
  have hk : a.Keeps { a with scopes := a.scopes.push sc } := by
    intro j s hs
    have hj : j ≠ a.scopes.size := by
      rintro rfl
      simp [scope?] at hs
    exact ⟨s, by rw [hscope, if_neg hj, hs], rfl⟩
  have hnew : ({ a with scopes := a.scopes.push sc } : Arena).scope? a.scopes.size = some sc := by
    rw [hscope, if_pos rfl]
  have h₁ : ({ a with scopes := a.scopes.push sc } : Arena).Placed P := by
    refine h.of_keeps hk (fun j s' hs' => ?_) fun r hr => .inl hr
    rw [hscope] at hs'
    split at hs'
    case isTrue hj =>
      cases hs'
      exact .inr ⟨⟨by simp [sc, hnew], hj.symm⟩, fun _ hx => by cases hx⟩
    case isFalse => exact .inl ⟨s', hs', rfl, fun x' hx' => .inl ⟨x', hx', rfl⟩⟩
  have hfn : ({ a with scopes := a.scopes.push sc } : Arena).functionNode a.scopes.size = some node := by
    simp [functionNode, hnew, sc]
  obtain ⟨h₂, hk₂⟩ := hf a.scopes.size _ h₁ hfn
  exact ⟨h₂, hk.trans hk₂⟩

theorem declare_places_unit {j : Nat} {kind : BindingKind} {ident : Node}
    (hident : LiesIn P ident g) : Places P (do let _ ← declare j ident kind : ScopeM PUnit) j g :=
  Places.bind (declare_places hident) fun _ => Places.pure _

/-- Recording an identifier that lies in the function of scope `j` keeps an arena placed. -/
theorem addReference_places {j : Nat} {ident : Node} {read write : Bool}
    (hident : LiesIn P ident g) : Places P (addReference ident j read write) j g := by
  cases ident
  case identifier sp name =>
    intro a h hg
    obtain ⟨s, hs, -⟩ := Option.bind_eq_some_iff.1 hg
    let r : Reference :=
      { name, span := sp, scope := j, functionScope := ((a.scope? j).map (·.functionScope)).getD j,
        binding := a.resolve name j, isRead := read, isWrite := write }
    have hk : a.Keeps { a with references := a.references.push r } := fun _ t ht => ⟨t, ht, rfl⟩
    show Placed P { a with references := a.references.push r } ∧ _
    refine ⟨h.of_keeps hk (fun i s' hs' => .inl ⟨s', hs', rfl, fun x' hx' =>
      .inl ⟨x', hx', rfl⟩⟩) fun r' hr' => ?_, hk⟩
    dsimp only at hr'
    simp only [Array.toList_push, List.mem_append, List.mem_singleton] at hr'
    rcases hr' with hr' | rfl
    · exact .inl hr'
    · exact .inr ⟨s, hs, by simp [r, hs], g, hident, hg⟩
  all_goals exact Places.pure _

/-- Declaring a name only where its identifier declares nothing yet keeps an arena placed. -/
theorem declareUnlessDeclared_places {j : Nat} {ident : Node} {kind : BindingKind}
    (hident : LiesIn P ident g) :
    Places P (do if ((← get).declaredAt ident.span.start.offset).isNone then
      let _ ← declare j ident kind) j g := by
  refine Places.get_bind fun a => ?_
  split
  · exact declare_places_unit hident a
  · exact Places.pure _ a

/-- Declaring the identifiers of declarators that lie in the function of scope `j` keeps an
arena placed. -/
theorem forM_declarators_places {j : Nat} {ds : List Node} {f : Node → ScopeM PUnit}
    (hds : ∀ d ∈ ds, LiesIn P d g) (hf : ∀ x, LiesIn P x g → Places P (f x) j g) :
    Places P (ds.forM fun d => match d with
      | .variableDeclarator _ t _ => (patternIdentifiers t).forM f
      | _ => pure ()) j g := by
  refine Places.forM fun d hd => ?_
  split
  case h_1 sp t init =>
    have ht : LiesIn P t g := (hds _ hd).descend (by simp [children]) rfl
    exact Places.forM fun x hx => hf x (ht.patternIdentifier hx)
  case h_2 => exact Places.pure _

/-- Hoisting the `var` declarations below the children of a node keeps an arena placed, when
those children lie in the function of scope `j` and have the shape of a tree read from a text:
hoisting stops at functions and classes, so it never leaves that function. -/
theorem hoistVars_places (n : Node) (j : Nat)
    (hn : ∀ c ∈ n.children, c.nestsIn false false = true ∧ LiesIn P c g) :
    Places P (hoistVars n j) j g := by
  rw [hoistVars]
  refine Places.forM_attach fun c hc => ?_
  obtain ⟨hnest, hlies⟩ := hn c hc
  dsimp only
  split
  · exact Places.pure _
  · -- a child that is neither a function nor a class opens no function
    rename_i hcond
    simp only [Bool.or_eq_true, not_or, Bool.not_eq_true] at hcond
    have hshape := opensFunction_of_nestsIn hnest
    have hopen : c.opensFunction = false := by rw [hshape.1, hcond.1]
    have hbelow : ∀ c' ∈ c.children, c'.nestsIn false false = true ∧ LiesIn P c' g := by
      intro c' hc'
      have hnest' := nestsIn_child hnest hc'
      rw [hshape.2, hcond.2] at hnest'
      exact ⟨hnest', hlies.descend hc' hopen⟩
    split
    · exact Places.bind (forM_declarators_places (fun d hd => hlies.descend hd rfl)
        fun _ hx => declare_places_unit hx) fun _ => hoistVars_places _ j hbelow
    · exact hoistVars_places _ j hbelow
termination_by sizeOf n
decreasing_by all_goals exact Node.sizeOf_lt_of_mem_children hc

/-- Hoisting the lexical declarations of statements that lie in the function of scope `j`
keeps an arena placed. -/
theorem hoistLexical_places {statements : List Node} {j : Nat}
    (hst : ∀ st ∈ statements, LiesIn P st g) : Places P (hoistLexical statements j) j g := by
  refine Places.forM fun st hmem => ?_
  have hlies := hst st hmem
  dsimp only
  split
  case h_1 sp ds kind hD =>
    have hdecl := LiesIn.exported hD hlies
    split
    · exact forM_declarators_places (fun d hd => hdecl.descend hd rfl) fun _ hx => declare_places_unit hx
    · exact Places.pure _
  case h_2 sp ident ps b gen async hD =>
    exact declare_places_unit (.name (LiesIn.exported hD hlies) rfl)
  case h_3 sp ident sc b hD =>
    exact declare_places_unit ((LiesIn.exported hD hlies).descend (by simp [children]) rfl)
  case h_4 sp specs src hD =>
    have hdecl := LiesIn.exported hD hlies
    refine Places.forM fun spec hspec => ?_
    have hs : LiesIn P spec g := hdecl.descend (by simp [children, hspec]) rfl
    split
    · exact declare_places_unit (hs.descend (by simp [children]) rfl)
    · exact declare_places_unit (hs.descend (by simp [children]) rfl)
    · exact declare_places_unit (hs.descend (by simp [children]) rfl)
    · exact Places.pure _
  case h_5 => exact Places.pure _

theorem markInitialized_places (p : Node) : Places P (markInitialized p) i g := by
  refine Places.forM fun ident _ => Places.get_bind fun a => ?_
  split
  · refine updateBinding_places _ (fun _ _ => ?_) a
    rfl
  · exact Places.pure _ a

theorem markExported_places (d : Node) : Places P (markExported d) i g := by
  refine Places.forM fun ident _ => Places.get_bind fun a => ?_
  split
  · refine updateBinding_places _ (fun _ _ => ?_) a
    rfl
  · exact Places.pure _ a

end ScopeBuilder

end ScriptGate
