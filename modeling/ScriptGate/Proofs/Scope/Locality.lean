import Mathlib.Data.List.Nodup
import ScriptGate.Proofs.Scope.Functions

/-!
# Local references are references within one function

The builder gives each scope the index of its function scope, and a reference is local
(`Arena.isLocal`) when it shares that index with its binding.  This module shows that the index
stands for the function of the program that the identifier lies in (`Node.LiesIn`).

Each of the four walks of the builder keeps the arena placed (`ScopeBuilder.PlacesOn`), by
well-founded recursion on the size of the node: one step lemma per walk, with one case per
handler of the walk, as in the proof that the walk adds each use site.  So the walk of a program
read from a text gives a placed arena (`analyzeScopes_placed`).

In a placed arena the function scopes nest as functions do: up the chain of parents the function
scope stays the same or moves to one opened by a strictly larger node
(`Arena.Placed.functionScope_of_mem_chainFrom`).  A binding lies on the chain of every reference
that resolves to it, so the two share a function scope exactly when they share a function node.
Hence an identifier is local exactly when it resolves to a binding below the module scope that is
declared in the function the identifier lies in (`analyzeScopes_isLocal_iff`).
-/

namespace ScriptGate

namespace Node

/-- A tree that has, where it stands, the shape of one read from a text. -/
def Shaped (n : Node) : Prop := ∃ x y, n.nestsIn x y = true

theorem Shaped.child {n c : Node} (h : n.Shaped) (hc : c ∈ n.children) : c.Shaped := by
  obtain ⟨x, y, h⟩ := h
  exact ⟨_, _, nestsIn_child h hc⟩

theorem Shaped.not_program {n : Node} (h : n.Shaped) :
    ∀ sp body isModule, n ≠ program sp body isModule := by
  rintro sp body isModule rfl
  obtain ⟨x, y, h⟩ := h
  rw [nestsIn.eq_def] at h
  simp at h

/-- In a program, a node with the shape of a tree read from a text lies strictly inside its
function. -/
theorem LiesIn.sizeOf_lt_of_shaped {P n f : Node}
    (hP : ∃ sp body isModule, P = program sp body isModule)
    (h : LiesIn P n f) (hn : n.Shaped) : sizeOf n < sizeOf f := by
  rcases h.sizeOf_lt with ⟨rfl, -⟩ | hlt
  · obtain ⟨sp, body, isModule, rfl⟩ := hP
    exact absurd rfl (hn.not_program sp body isModule)
  · exact hlt

/-- A child of a function, other than its name, lies in the function. -/
theorem LiesIn.enter {P n f : Node} (h : LiesIn P n f) (c : Node) (hc : c ∈ n.innerChildren)
    (hopen : n.opensFunction = true) : LiesIn P c n ∧ c ∈ n.children :=
  ⟨by simpa [hopen] using h.inner hc, mem_children_of_mem_innerChildren hc⟩

end Node

namespace ScopeBuilder

open Node Arena

variable {P : Node}

/-! ## Each walk keeps the arena placed -/

/-- The four walks of the builder on a node that lies in `P`, in the function opened by `g`, with
the shape of a tree read from a text: each keeps the arena placed when run in a scope of `g`. -/
structure PlacesOn (P n : Node) : Prop where
  visit : ∀ i g, LiesIn P n g → n.Shaped → Places P (visit n i) i g
  function : ∀ i g, LiesIn P n g → n.Shaped → Places P (function n i) i g
  patternExpressions : ∀ i g, LiesIn P n g → n.Shaped → Places P (patternExpressions n i) i g
  target : ∀ i g read, LiesIn P n g → n.Shaped → Places P (target n i read) i g

/-- Every node smaller than `n` is walked as `PlacesOn` says. -/
def PlacesBelow (P n : Node) : Prop := ∀ c, sizeOf c < sizeOf n → PlacesOn P c

theorem PlacesBelow.child {n c : Node} (ih : PlacesBelow P n) (hc : c ∈ n.children) :
    PlacesOn P c :=
  ih c (sizeOf_lt_of_mem_children hc)

theorem PlacesBelow.below {n c : Node} (ih : PlacesBelow P n) (hc : c ∈ n.children) :
    PlacesBelow P c := fun d hd => ih d (Nat.lt_trans hd (sizeOf_lt_of_mem_children hc))

theorem visitAll_places {ns : List Node} {s : Nat} {g : Node}
    (h : ∀ c ∈ ns, Places P (visit c s) s g) : Places P (visitAll ns s) s g := by
  rw [visitAll]
  exact Places.forM_attach fun c hc => h c hc

theorem visitOption_places {o : Option Node} {s : Nat} {g : Node}
    (h : ∀ c ∈ o, Places P (visit c s) s g) : Places P (visitOption o s) s g := by
  cases o with
  | none =>
    rw [visitOption]
    exact Places.pure _
  | some c =>
    rw [visitOption]
    exact h c rfl

/-- Hoisting a statement list, then walking it, keeps an arena placed. -/
theorem hoistLexical_visitAll_places {stmts : List Node} {s : Nat} {g : Node}
    (hlies : ∀ st ∈ stmts, LiesIn P st g) (h : ∀ st ∈ stmts, Places P (visit st s) s g) :
    Places P (do hoistLexical stmts s; visitAll stmts s) s g :=
  Places.bind (hoistLexical_places hlies) fun _ => visitAll_places h

theorem patternExpressions_places_step {p : Node} (ih : PlacesBelow P p) (scope : Nat) (g : Node)
    (hlies : LiesIn P p g) (hshape : p.Shaped) :
    Places P (patternExpressions p scope) scope g := by
  rw [patternExpressions.eq_def]
  cases p
  case assignmentPattern sp l r =>
    have hl : l ∈ (assignmentPattern sp l r).children := by simp [children]
    have hr : r ∈ (assignmentPattern sp l r).children := by simp [children]
    exact Places.bind ((ih.child hl).patternExpressions scope g (hlies.descend hl rfl)
        (hshape.child hl)) fun _ =>
      (ih.child hr).visit scope g (hlies.descend hr rfl) (hshape.child hr)
  case objectPattern sp props =>
    refine Places.forM_attach fun q hq => ?_
    have hqc : q ∈ (objectPattern sp props).children := by simpa [children] using hq
    have hql := hlies.descend hqc rfl
    have ihq := ih.below hqc
    cases q
    case property sp' k v kind computed method shorthand =>
      -- a property walks its computed key and its value's pattern
      have hk : k ∈ (property sp' k v kind computed method shorthand).children := by simp [children]
      have hv : v ∈ (property sp' k v kind computed method shorthand).children := by simp [children]
      have hvp := (ihq.child hv).patternExpressions scope g (hql.descend hv rfl)
        ((hshape.child hqc).child hv)
      cases computed
      · exact hvp
      · exact Places.bind ((ihq.child hk).visit scope g (hql.descend hk rfl)
          ((hshape.child hqc).child hk)) fun _ => hvp
    all_goals exact (ih.child hqc).patternExpressions scope g hql (hshape.child hqc)
  case arrayPattern sp es =>
    refine Places.forM_attach fun o ho => ?_
    cases o with
    | none => exact Places.pure _
    | some e =>
      have hec : e ∈ (arrayPattern sp es).children := by simpa [children] using ho
      exact (ih.child hec).patternExpressions scope g (hlies.descend hec rfl) (hshape.child hec)
  case restElement sp a =>
    have ha : a ∈ (restElement sp a).children := by simp [children]
    exact (ih.child ha).patternExpressions scope g (hlies.descend ha rfl) (hshape.child ha)
  all_goals exact Places.pure _

theorem target_places_step {t : Node} (ih : PlacesBelow P t)
    (hv : ∀ s g, LiesIn P t g → t.Shaped → Places P (visit t s) s g) (scope : Nat) (g : Node)
    (read : Bool) (hlies : LiesIn P t g) (hshape : t.Shaped) :
    Places P (target t scope read) scope g := by
  rw [target.eq_def]
  cases t
  case identifier sp name =>
    exact Places.bind (addReference_places hlies) fun _ => Places.pure _
  case assignmentPattern sp l r =>
    have hl : l ∈ (assignmentPattern sp l r).children := by simp [children]
    have hr : r ∈ (assignmentPattern sp l r).children := by simp [children]
    exact Places.bind ((ih.child hl).target scope g read (hlies.descend hl rfl) (hshape.child hl))
      fun _ => (ih.child hr).visit scope g (hlies.descend hr rfl) (hshape.child hr)
  case objectPattern sp props =>
    refine Places.forM_attach fun q hq => ?_
    have hqc : q ∈ (objectPattern sp props).children := by simpa [children] using hq
    have hql := hlies.descend hqc rfl
    have ihq := ih.below hqc
    cases q
    case property sp' k v kind computed method shorthand =>
      have hk : k ∈ (property sp' k v kind computed method shorthand).children := by simp [children]
      have hv : v ∈ (property sp' k v kind computed method shorthand).children := by simp [children]
      have hvt := (ihq.child hv).target scope g read (hql.descend hv rfl)
        ((hshape.child hqc).child hv)
      cases computed
      · exact hvt
      · exact Places.bind ((ihq.child hk).visit scope g (hql.descend hk rfl)
          ((hshape.child hqc).child hk)) fun _ => hvt
    all_goals exact (ih.child hqc).target scope g read hql (hshape.child hqc)
  case arrayPattern sp es =>
    refine Places.forM_attach fun o ho => ?_
    cases o with
    | none => exact Places.pure _
    | some e =>
      have hec : e ∈ (arrayPattern sp es).children := by simpa [children] using ho
      exact (ih.child hec).target scope g read (hlies.descend hec rfl) (hshape.child hec)
  case restElement sp a =>
    have ha : a ∈ (restElement sp a).children := by simp [children]
    exact (ih.child ha).target scope g read (hlies.descend ha rfl) (hshape.child ha)
  all_goals exact hv scope g hlies hshape

/-- A value returned, then a step run with it: the step alone. -/
theorem Places.pure_bind {α β : Type} {x : α} {f : α → ScopeM β} {i : Nat} {g : Node}
    (h : Places P (f x) i g) : Places P (Pure.pure x >>= f) i g := h

/-- A scope that opens no function is entered in the function of the node that opens it. -/
theorem addScope_inner_bind_places {kind : ScopeKind} {node : Node} {β : Type}
    {f : Nat → ScopeM β} {i : Nat} {g : Node} (hkind : ¬(kind = .module ∨ kind = .function))
    (hf : ∀ j, Places P (f j) j g) : Places P (addScope kind node (some i) >>= f) i g :=
  addScope_bind_places (fun hk => absurd hk hkind) (fun _ => rfl) hf

/-- A function's scope is entered in the function itself, a node smaller than the one it
lies in. -/
theorem addScope_function_bind_places {node : Node} {β : Type} {f : Nat → ScopeM β} {i : Nat}
    {g : Node} (hsize : sizeOf node < sizeOf g) (hf : ∀ j, Places P (f j) j node) :
    Places P (addScope .function node (some i) >>= f) i g :=
  addScope_bind_places (fun _ => ⟨rfl, hsize⟩) (fun hk => absurd (.inr rfl) hk) hf

/-- A child of a node that opens no function is walked in the function of the node. -/
theorem PlacesBelow.visit_child {n c : Node} {g : Node} (ih : PlacesBelow P n)
    (hlies : LiesIn P n g) (hshape : n.Shaped) (hc : c ∈ n.children)
    (hopen : n.opensFunction = false) (s : Nat) : Places P (visit c s) s g :=
  (ih.child hc).visit s g (hlies.descend hc hopen) (hshape.child hc)

/-! ### The nodes that declare names or open scopes

One lemma for each such node; the step lemma after them takes the other nodes
case by case. -/

theorem variableDeclaration_places {sp : Span} {ds : List Node} {kind : DeclarationKind}
    (ih : PlacesBelow P (variableDeclaration sp ds kind)) (scope : Nat) (g : Node)
    (hlies : LiesIn P (variableDeclaration sp ds kind) g)
    (hshape : (variableDeclaration sp ds kind).Shaped) :
    Places P (visit (variableDeclaration sp ds kind) scope) scope g := by
  rw [visit.eq_def]
  refine Places.forM_attach fun d hd => ?_
  have hdc : d ∈ (variableDeclaration sp ds kind).children := hd
  have hdl := hlies.descend hdc rfl
  have ihd := ih.below hdc
  cases d
  case variableDeclarator sp' t init =>
    -- each declarator declares its names, walks its pattern, then its value
    have htc : t ∈ (variableDeclarator sp' t init).children := by simp [children]
    have htl := hdl.descend htc rfl
    refine Places.bind (Places.forM fun ident hid =>
      declareUnlessDeclared_places (htl.patternIdentifier hid)) fun _ => ?_
    refine Places.bind ((ihd.child htc).patternExpressions scope g htl
      ((hshape.child hdc).child htc)) fun _ => ?_
    cases init with
    | none => exact Places.pure _
    | some v =>
      have hvc : v ∈ (variableDeclarator sp' t (some v)).children := by simp [children]
      exact Places.bind (markInitialized_places t) fun _ =>
        (ihd.child hvc).visit scope g (hdl.descend hvc rfl) ((hshape.child hdc).child hvc)
  all_goals exact Places.pure _

theorem classDeclaration_places {sp : Span} {ident : Option Node} {sc : Option Node}
    {body : Node} (ih : PlacesBelow P (classDeclaration sp ident sc body)) (scope : Nat) (g : Node)
    (hlies : LiesIn P (classDeclaration sp ident sc body) g)
    (hshape : (classDeclaration sp ident sc body).Shaped) :
    Places P (visit (classDeclaration sp ident sc body) scope) scope g := by
  -- a child of a node that opens no function is walked in the node's function
  have hsub : ∀ c ∈ (classDeclaration sp ident sc body).children, ∀ s, Places P (visit c s) s g :=
    fun _ hc => ih.visit_child hlies hshape hc rfl
  rw [visit.eq_def]
  have hrest : Places P (do
      visitOption sc scope
      let c ← addScope .classBody (classDeclaration sp ident sc body) (some scope)
      visit body c) scope g :=
    Places.bind (visitOption_places fun c hc =>
        hsub c (by simp [children, Option.mem_def.1 hc]) scope)
      fun _ => addScope_inner_bind_places (by simp) fun c =>
        hsub body (by simp [children]) c
  cases ident with
  | none => exact hrest
  | some i =>
    refine Places.get_bind fun a => ?_
    split
    · exact Places.bind (declare_places_unit (hlies.descend (by simp [children]) rfl))
        (fun _ => hrest) a
    · exact hrest a

theorem classExpression_places {sp : Span} {ident : Option Node} {sc : Option Node}
    {body : Node} (ih : PlacesBelow P (classExpression sp ident sc body)) (scope : Nat) (g : Node)
    (hlies : LiesIn P (classExpression sp ident sc body) g)
    (hshape : (classExpression sp ident sc body).Shaped) :
    Places P (visit (classExpression sp ident sc body) scope) scope g := by
  -- a child of a node that opens no function is walked in the node's function
  have hsub : ∀ c ∈ (classExpression sp ident sc body).children, ∀ s, Places P (visit c s) s g :=
    fun _ hc => ih.visit_child hlies hshape hc rfl
  rw [visit.eq_def]
  have hbody : ∀ c, Places P (visit body c) c g := hsub body (by simp [children])
  have hsc : Places P (visitOption sc scope) scope g :=
    visitOption_places fun c hc => hsub c (by simp [children, Option.mem_def.1 hc]) scope
  cases ident with
  | none =>
    exact Places.bind hsc fun _ => addScope_inner_bind_places (by simp) hbody
  | some i =>
    -- the name of a class expression is declared inside its body's scope
    exact Places.bind hsc fun _ => addScope_inner_bind_places (by simp)
      fun c => Places.bind (declare_places_unit (hlies.descend (by simp [children]) rfl))
        fun _ => hbody c

theorem catchClause_places {sp : Span} {param : Option Node} {body : Node}
    (ih : PlacesBelow P (catchClause sp param body)) (scope : Nat) (g : Node)
    (hlies : LiesIn P (catchClause sp param body) g) (hshape : (catchClause sp param body).Shaped) :
    Places P (visit (catchClause sp param body) scope) scope g := by
  -- a child of a node that opens no function is walked in the node's function
  have hsub : ∀ c ∈ (catchClause sp param body).children, ∀ s, Places P (visit c s) s g :=
    fun _ hc => ih.visit_child hlies hshape hc rfl
  rw [visit.eq_def]
  have hbody : ∀ c, Places P (visit body c) c g := hsub body (by simp [children])
  cases param with
  | none => exact addScope_inner_bind_places (by simp) hbody
  | some p =>
    have hp : p ∈ (catchClause sp (some p) body).children := by simp [children]
    have hpl := hlies.descend hp rfl
    exact addScope_inner_bind_places (by simp) fun c =>
      Places.bind (Places.forM fun _ hid => declareInitialized_places (hpl.patternIdentifier hid))
        fun _ => Places.bind ((ih.child hp).patternExpressions c g hpl (hshape.child hp))
          fun _ => hbody c

theorem exportNamedDeclaration_places {sp : Span} {decl : Option Node} {specs : List Node}
    {src : Option Node} (ih : PlacesBelow P (exportNamedDeclaration sp decl specs src))
    (scope : Nat) (g : Node) (hlies : LiesIn P (exportNamedDeclaration sp decl specs src) g)
    (hshape : (exportNamedDeclaration sp decl specs src).Shaped) :
    Places P (visit (exportNamedDeclaration sp decl specs src) scope) scope g := by
  -- a child of a node that opens no function is walked in the node's function
  have hsub : ∀ c ∈ (exportNamedDeclaration sp decl specs src).children, ∀ s,
      Places P (visit c s) s g :=
    fun _ hc => ih.visit_child hlies hshape hc rfl
  rw [visit.eq_def]
  cases decl with
  | some d =>
    exact Places.bind (hsub d (by simp [children]) scope) fun _ => markExported_places d
  | none =>
    cases src with
    | some _ => exact Places.pure _
    | none =>
      -- each local name exported is a reference, and its binding is marked exported
      refine Places.forM fun spec hspec => ?_
      have hsc : spec ∈ (exportNamedDeclaration sp none specs none).children := by
        simp [children, hspec]
      cases spec
      case exportSpecifier sp' l e =>
        have hl : LiesIn P l g := (hlies.descend hsc rfl).descend (by simp [children]) rfl
        refine Places.bind (addReference_places hl) fun key => ?_
        cases key with
        | none => exact Places.pure _
        | some key => exact updateBinding_places _ fun _ _ => rfl
      all_goals exact Places.pure _

theorem switchStatement_places {sp : Span} {disc : Node} {cases : List Node}
    (ih : PlacesBelow P (switchStatement sp disc cases)) (scope : Nat) (g : Node)
    (hlies : LiesIn P (switchStatement sp disc cases) g)
    (hshape : (switchStatement sp disc cases).Shaped) :
    Places P (visit (switchStatement sp disc cases) scope) scope g := by
  -- a child of a node that opens no function is walked in the node's function
  have hsub : ∀ c ∈ (switchStatement sp disc cases).children, ∀ s, Places P (visit c s) s g :=
    fun _ hc => ih.visit_child hlies hshape hc rfl
  rw [visit.eq_def]
  refine Places.bind (hsub disc (by simp [children]) scope) fun _ => ?_
  refine addScope_inner_bind_places (by simp) fun s => ?_
  have hcase : ∀ c ∈ cases, LiesIn P c g ∧ PlacesBelow P c ∧ c.Shaped := fun c hc =>
    have hcc : c ∈ (switchStatement sp disc cases).children := by simp [children, hc]
    ⟨hlies.descend hcc rfl, ih.below hcc, hshape.child hcc⟩
  refine Places.bind (Places.forM fun c hc => ?_) fun _ => Places.forM_attach fun c hc => ?_
  · -- the cases' declarations are hoisted into the switch's scope
    obtain ⟨hcl, -, -⟩ := hcase c hc
    split
    · exact hoistLexical_places fun st hst => hcl.descend (by simp [children, hst]) rfl
    · exact Places.pure _
  · obtain ⟨hcl, ihc, hcs⟩ := hcase c hc
    cases c
    case switchCase sp' test cons =>
      exact Places.bind (visitOption_places fun t ht =>
          ihc.visit_child hcl hcs (by simp [children, Option.mem_def.1 ht]) rfl s)
        fun _ => visitAll_places fun st hst =>
          ihc.visit_child hcl hcs (by simp [children, hst]) rfl s
    all_goals exact Places.pure _

theorem forStatement_places {sp : Span} {init : Option Node} {test : Option Node}
    {update : Option Node} {body : Node}
    (ih : PlacesBelow P (forStatement sp init test update body)) (scope : Nat) (g : Node)
    (hlies : LiesIn P (forStatement sp init test update body) g)
    (hshape : (forStatement sp init test update body).Shaped) :
    Places P (visit (forStatement sp init test update body) scope) scope g := by
  -- a child of a node that opens no function is walked in the node's function
  have hsub : ∀ c ∈ (forStatement sp init test update body).children, ∀ s,
      Places P (visit c s) s g :=
    fun _ hc => ih.visit_child hlies hshape hc rfl
  rw [visit.eq_def]
  have hopt : ∀ o : Option Node, (∀ c ∈ o, c ∈ (forStatement sp init test update body).children) →
      ∀ s, Places P (visitOption o s) s g := fun o ho s =>
    visitOption_places fun c hc => hsub c (ho c hc) s
  have htail : ∀ s, Places P
      (do visitOption init s; visitOption test s; visitOption update s; visit body s) s g :=
    fun s => Places.bind (hopt init (fun c hc => by simp [children, Option.mem_def.1 hc]) s)
      fun _ => Places.bind (hopt test (fun c hc => by simp [children, Option.mem_def.1 hc]) s)
      fun _ => Places.bind (hopt update (fun c hc => by simp [children, Option.mem_def.1 hc]) s)
      fun _ => hsub body (by simp [children]) s
  -- the head opens a scope of its own for a lexical declaration
  dsimp only
  split
  · split
    · refine addScope_inner_bind_places (by simp) fun s =>
        Places.bind (hoistLexical_places fun st hst => ?_) fun _ => Places.pure_bind (htail s)
      rw [List.mem_singleton.1 hst]
      exact hlies.descend (by simp [children]) rfl
    · exact Places.pure_bind (htail scope)
  · exact Places.pure_bind (htail scope)

/-- A `for-in` and a `for-of` loop are walked alike. -/
theorem forInOf_places {sp : Span} {l r b loop : Node}
    (hloop : loop = forInStatement sp l r b ∨ loop = forOfStatement sp l r b)
    (ih : PlacesBelow P loop) (scope : Nat) (g : Node) (hlies : LiesIn P loop g)
    (hshape : loop.Shaped) :
    Places P (visit loop scope) scope g := by
  -- a child of a node that opens no function is walked in the node's function
  have hsub : ∀ c ∈ loop.children, ∀ s, Places P (visit c s) s g :=
    fun _ hc => ih.visit_child hlies hshape hc (by rcases hloop with rfl | rfl <;> rfl)
  rcases hloop with rfl | rfl
  all_goals
    rw [visit.eq_def]
    refine Places.bind (hsub r (by simp [children]) scope) fun _ => ?_
    have hb : ∀ s, Places P (visit b s) s g := hsub b (by simp [children])
    have hll : LiesIn P l g := hlies.descend (by simp [children]) rfl
    have hlo : PlacesOn P l := ih.child (by simp [children])
    have ihl : PlacesBelow P l := ih.below (by simp [children])
    have hls : l.Shaped := hshape.child (by simp [children])
    have htarget := hlo.target scope g false hll hls
    cases l
    case variableDeclaration sp' ds kind =>
      dsimp only
      split
      refine addScope_inner_bind_places (by simp) fun s =>
        Places.bind (hoistLexical_places fun st hst => ?_) fun _ =>
          Places.pure_bind (Places.bind ?_ fun _ => hb s)
      · rw [List.mem_singleton.1 hst]
        exact hll
      rotate_left
      refine Places.pure_bind (Places.bind ?_ fun _ => hb scope)
      -- either way, each declarator's names are given their values and its pattern's
      -- expressions are walked
      all_goals
        refine Places.forM_attach fun d hd => ?_
        have hdc : d ∈ (variableDeclaration sp' ds kind).children := hd
        have hdl := hll.descend hdc rfl
        cases d
        case variableDeclarator sp'' t init =>
          have htc : t ∈ (variableDeclarator sp'' t init).children := by simp [children]
          exact Places.bind (markInitialized_places t) fun _ =>
            ((ihl.below hdc).child htc).patternExpressions _ g (hdl.descend htc rfl)
              ((hls.child hdc).child htc)
        all_goals exact Places.pure _
    all_goals exact Places.bind htarget fun _ => hb scope

variable (hP : ∃ sp body isModule, P = program sp body isModule)
include hP

theorem function_places_step {n : Node} (ih : PlacesBelow P n) (parent : Nat) (g : Node)
    (hlies : LiesIn P n g) (hshape : n.Shaped) : Places P (function n parent) parent g := by
  rw [function.eq_def]
  have hsize := hlies.sizeOf_lt_of_shaped hP hshape
  cases n
  case functionDeclaration sp i ps b gen async | functionExpression sp i ps b gen async
      | arrowFunctionExpression sp ps b gen async =>
    -- the parameters and body lie in the function itself, whose scope they are walked in
    refine addScope_function_bind_places hsize fun f => ?_
    refine Places.bind (Places.forM_attach fun p hp => ?_) fun _ => ?_
    · obtain ⟨hpl, hpc⟩ := hlies.enter p (by simp [innerChildren, children, hp]) rfl
      exact Places.bind (Places.forM fun ident hid =>
          declareInitialized_places (hpl.patternIdentifier hid)) fun _ =>
        (ih.child hpc).patternExpressions f _ hpl (hshape.child hpc)
    · obtain ⟨hbl, hbc⟩ := hlies.enter b (by simp [innerChildren, children]) rfl
      have hb := ih.child hbc
      have ihb := ih.below hbc
      have hbshape := hshape.child hbc
      cases b
      case blockStatement sp' stmts =>
        -- a block body is hoisted into the function scope
        have hst : ∀ st ∈ stmts, st ∈ (blockStatement sp' stmts).children := fun st h => h
        refine Places.bind (hoistVars_places _ f fun c hc => ⟨?_, hbl.descend hc rfl⟩) fun _ =>
          hoistLexical_visitAll_places (fun st h => hbl.descend (hst st h) rfl) fun st h =>
            (ihb.child (hst st h)).visit f _ (hbl.descend (hst st h) rfl) (hbshape.child (hst st h))
        obtain ⟨x, y, hxy⟩ := hbshape
        exact nestsIn_child hxy hc
      all_goals exact hb.visit f _ hbl hbshape
  all_goals exact Places.pure _

theorem visit_places_step {n : Node} (ih : PlacesBelow P n)
    (hf : ∀ s g, LiesIn P n g → n.Shaped → Places P (function n s) s g) (scope : Nat) (g : Node)
    (hlies : LiesIn P n g) (hshape : n.Shaped) : Places P (visit n scope) scope g := by
  -- a child of a node that opens no function is walked in the node's function
  have hsub : ∀ c ∈ n.children, n.opensFunction = false → ∀ s, Places P (visit c s) s g :=
    fun _ hc hopen => ih.visit_child hlies hshape hc hopen
  have hsize := hlies.sizeOf_lt_of_shaped hP hshape
  cases n
  case variableDeclaration => exact variableDeclaration_places ih scope g hlies hshape
  case classDeclaration => exact classDeclaration_places ih scope g hlies hshape
  case classExpression => exact classExpression_places ih scope g hlies hshape
  case catchClause => exact catchClause_places ih scope g hlies hshape
  case exportNamedDeclaration => exact exportNamedDeclaration_places ih scope g hlies hshape
  case switchStatement => exact switchStatement_places ih scope g hlies hshape
  case forStatement => exact forStatement_places ih scope g hlies hshape
  case forInStatement => exact forInOf_places (.inl rfl) ih scope g hlies hshape
  case forOfStatement => exact forInOf_places (.inr rfl) ih scope g hlies hshape
  all_goals rw [visit.eq_def]
  case program sp body st => exact absurd rfl (hshape.not_program sp body st)
  case identifier sp name => exact Places.bind (addReference_places hlies) fun _ => Places.pure _
  case functionDeclaration sp ident ps b gen async =>
    cases ident with
    | none => exact hf scope g hlies hshape
    | some i =>
      -- the name is declared outside the function, in the scope the declaration stands in
      refine Places.get_bind fun a => ?_
      split
      · exact Places.bind (declare_places_unit (.name hlies rfl))
          (fun _ => hf scope g hlies hshape) a
      · exact hf scope g hlies hshape a
  case functionExpression sp ident ps b gen async =>
    cases ident with
    | none => exact hf scope g hlies hshape
    | some i =>
      -- the name has a scope of its own, in the function the expression lies in
      exact addScope_inner_bind_places (by simp) fun m =>
        Places.bind (declare_places_unit (.name hlies rfl)) fun _ => hf m g hlies hshape
  case arrowFunctionExpression => exact hf scope g hlies hshape
  case blockStatement sp body =>
    exact addScope_inner_bind_places (by simp) fun m =>
      hoistLexical_visitAll_places (fun st h => hlies.descend h rfl) fun st h => hsub st h rfl m
  case staticBlock sp body =>
    -- a static block is a function of its own, hoisted like a function body
    obtain ⟨x, y, hxy⟩ := hshape
    have hin : ∀ c ∈ body, LiesIn P c (staticBlock sp body) := fun c hc =>
      (hlies.enter c (by simpa [innerChildren, children] using hc) rfl).1
    exact addScope_function_bind_places hsize fun m =>
      Places.bind (hoistVars_places _ m fun c hc => ⟨nestsIn_child hxy hc, hin c hc⟩) fun _ =>
        hoistLexical_visitAll_places hin fun st h =>
          (ih.child h).visit m _ (hin st h) (Shaped.child ⟨x, y, hxy⟩ h)
  case assignmentExpression sp op l r =>
    have hl : l ∈ (assignmentExpression sp op l r).children := by simp [children]
    exact Places.bind ((ih.child hl).target scope g _ (hlies.descend hl rfl) (hshape.child hl))
      fun _ => hsub r (by simp [children]) rfl scope
  case memberExpression sp o p computed opt =>
    refine Places.bind (hsub o (by simp [children]) rfl scope) fun _ => ?_
    cases computed
    · exact Places.pure _
    · exact hsub p (by simp [children]) rfl scope
  case property sp k v kind computed method shorthand =>
    have hv := hsub v (by simp [children]) rfl scope
    cases computed
    · exact hv
    · exact Places.bind (hsub k (by simp [children]) rfl scope) fun _ => hv
  case methodDefinition sp k computed v kind static =>
    have hv := hsub v (by simp [children]) rfl scope
    cases computed
    · exact hv
    · exact Places.bind (hsub k (by simp [children]) rfl scope) fun _ => hv
  case propertyDefinition sp k computed v static =>
    have hv : Places P (visitOption v scope) scope g :=
      visitOption_places fun c hc => hsub c (by simp [children]; exact Or.inr hc) rfl scope
    cases computed
    · exact hv
    · exact Places.bind (hsub k (by simp [children]) rfl scope) fun _ => hv
  case privateIdentifier | breakStatement | continueStatement | metaProperty
      | importDeclaration | exportAllDeclaration => exact Places.pure _
  case labeledStatement sp l body => exact hsub body (by simp [children]) rfl scope
  case exportDefaultDeclaration sp d =>
    exact Places.bind (hsub d (by simp [children]) rfl scope) fun _ => markExported_places d
  case updateExpression sp op a pre =>
    have ha : a ∈ (updateExpression sp op a pre).children := by simp [children]
    have hva := hsub a ha rfl scope
    cases a
    case identifier sp' name =>
      exact Places.bind (addReference_places (hlies.descend ha rfl)) fun _ => Places.pure _
    all_goals exact hva
  all_goals exact Places.forM_attach fun c hc => hsub c hc rfl scope

/-- All four walks of the builder keep the arena placed, on every node of a program. -/
theorem placesOn (n : Node) : PlacesOn P n := by
  have ih : PlacesBelow P n := fun c _ => placesOn c
  have hf := function_places_step hP ih
  have hv := visit_places_step hP ih hf
  exact ⟨hv, hf, patternExpressions_places_step ih, target_places_step ih hv⟩
termination_by sizeOf n

end ScopeBuilder

namespace Arena

/-- The empty arena has nothing to place. -/
theorem placed_empty (P : Node) : ({} : Arena).Placed P where
  scopes _ _ h := by simp [scope?] at h
  bindings _ _ h := by simp [scope?] at h
  references _ h := by simp at h

end Arena

/-- The identifier that declares `b` first lies in the function `f` of `P`. -/
def Binding.DeclaredIn (P : Node) (b : Binding) (f : Node) : Prop :=
  ∃ sp, b.identifiers.head? = some sp ∧ Node.LiesIn P (.identifier sp b.name) f

/-! ## Function scopes up a chain -/

namespace Arena

variable {P : Node} {a : Arena}

theorem functionNode_eq_of_scope? {j : Nat} {s : Scope} (hj : a.scope? j = some s) :
    a.functionNode j = (a.scope? s.functionScope).map (·.node) := by
  simp [functionNode, hj]

/-- Two scopes with one function scope have one function node. -/
theorem functionNode_eq_of_functionScope_eq {j k : Nat} {sj sk : Scope} (hj : a.scope? j = some sj)
    (hk : a.scope? k = some sk) (h : sk.functionScope = sj.functionScope) :
    a.functionNode k = a.functionNode j := by
  rw [functionNode_eq_of_scope? hj, functionNode_eq_of_scope? hk, h]

/-- In a placed arena, going up the chain of parents from scope `j` to scope `k` either keeps
the function scope of `j` or reaches one opened by a strictly larger node: function scopes nest
as the functions of the program do. -/
theorem Placed.functionScope_of_mem_chainFrom (h : a.Placed P) (fuel : Nat) :
    ∀ j k, k ∈ a.chainFrom fuel (some j) → ∃ sj sk, a.scope? j = some sj ∧
      a.scope? k = some sk ∧ (sk.functionScope = sj.functionScope ∨
        ∃ gj gk, a.functionNode j = some gj ∧ a.functionNode k = some gk ∧
          sizeOf gj < sizeOf gk) := by
  -- induction on the chain, from its far end: each parent link keeps the function scope or
  -- opens a function on a smaller node
  induction fuel with
  | zero => intro j k hk; simp [chainFrom] at hk
  | succ fuel ih =>
    intro j k hk
    obtain ⟨sj, hj⟩ : ∃ sj, a.scope? j = some sj := by
      cases hj : a.scope? j with
      | none => simp [chainFrom, hj] at hk
      | some sj => exact ⟨sj, rfl⟩
    simp only [chainFrom, hj, List.mem_cons] at hk
    rcases hk with rfl | hk
    · exact ⟨sj, sj, hj, hj, .inl rfl⟩
    obtain ⟨hfs, hnest⟩ := h.scopes j sj hj
    obtain ⟨fj, hfj⟩ := Option.isSome_iff_exists.1 hfs
    cases hp : sj.parent with
    | none => cases fuel <;> simp [hp, chainFrom] at hk
    | some p =>
      rw [hp] at hk
      rw [hp] at hnest
      obtain ⟨sp, sk, hsp, hsk, hup⟩ := ih p k hk
      obtain ⟨ps, hps, hstep⟩ := hnest
      obtain rfl : ps = sp := Option.some.inj (hps.symm.trans hsp)
      refine ⟨sj, sk, hj, hsk, ?_⟩
      rcases hstep with hsame | ⟨hown, g, hg, hlt⟩
      · -- the scope shares its parent's function scope
        rcases hup with hup | ⟨gp, gk, hgp, hgk, hlt⟩
        · exact .inl (hup.trans hsame.symm)
        · refine .inr ⟨gp, gk, ?_, hgk, hlt⟩
          rw [functionNode_eq_of_functionScope_eq hsp hj hsame, hgp]
      · -- the scope opens a function, on a node inside its parent's function
        have hgj : a.functionNode j = some sj.node := by
          rw [functionNode_eq_of_scope? hj, hown, hj]
          rfl
        refine .inr ⟨sj.node, ?_⟩
        rcases hup with hup | ⟨gp, gk, hgp, hgk, hlt'⟩
        · exact ⟨g, hgj, by rw [functionNode_eq_of_functionScope_eq hsp hsk hup, hg], hlt⟩
        · obtain rfl : gp = g := Option.some.inj (hgp.symm.trans hg)
          exact ⟨gk, hgj, hgk, Nat.lt_trans hlt hlt'⟩

/-- In a placed arena, a scope on the chain of `j` with the function node of `j` has the
function scope of `j`. -/
theorem Placed.functionScope_eq_of_mem_chain (h : a.Placed P) {j k : Nat} (hk : k ∈ a.chain j)
    (hnode : a.functionNode k = a.functionNode j) :
    ∃ sj sk, a.scope? j = some sj ∧ a.scope? k = some sk ∧ sk.functionScope = sj.functionScope := by
  obtain ⟨sj, sk, hj, hsk, hup | ⟨gj, gk, hgj, hgk, hlt⟩⟩ :=
    h.functionScope_of_mem_chainFrom _ j k hk
  · exact ⟨sj, sk, hj, hsk, hup⟩
  · rw [hgj, hgk] at hnode
    cases hnode
    exact absurd hlt (Nat.lt_irrefl _)

/-- A binding is held by the scope its key names. -/
theorem mem_bindings_of_binding? {key : BindingKey} {b : Binding} (hb : a.binding? key = some b) :
    ∃ s, a.scope? key.1 = some s ∧ b ∈ s.bindings := by
  obtain ⟨s, hs, hfind⟩ := Option.bind_eq_some_iff.1 hb
  exact ⟨s, hs, List.mem_of_find?_eq_some hfind⟩

/-! ## Local references -/

/-- A reference and the binding it resolved to share a function scope exactly when the binding
is declared in the function that an identifier at the reference's place lies in. -/
theorem Placed.functionScope_eq_iff (h : a.Placed P) (hsound : a.Sound)
    (hplaces : P.PlacesFunctions) {r : Reference} (hr : r ∈ a.references.toList)
    {key : BindingKey} (hkey : r.binding = some key) {b : Binding} (hb : a.binding? key = some b)
    {sp : Span} {name : String} {f : Node} (hx : Node.LiesIn P (.identifier sp name) f)
    (hoff : sp.start.offset = r.span.start.offset) :
    b.functionScope = r.functionScope ↔ b.DeclaredIn P f := by
  obtain ⟨sr, hsr, hrfs, fr, hrlies, hrnode⟩ := h.references r hr
  obtain rfl : f = fr := hplaces _ _ _ _ _ _ hx hrlies hoff
  obtain ⟨-, hchain, -⟩ := hsound r hr key hkey
  obtain ⟨sb, hsb, hbmem⟩ := mem_bindings_of_binding? hb
  obtain ⟨-, hbfs, spb, fb, hhead, hblies, hbnode⟩ := h.bindings key.1 sb hsb b hbmem
  constructor
  · -- one function scope, so one function node
    intro heq
    have hnode := functionNode_eq_of_functionScope_eq hsr hsb (by rw [← hbfs, heq, hrfs])
    rw [hbnode, hrnode] at hnode
    cases hnode
    exact ⟨spb, hhead, hblies⟩
  · -- one function node, and the binding's scope is on the reference's chain
    rintro ⟨sp', hhead', hlies'⟩
    obtain rfl : sp' = spb := Option.some.inj (hhead'.symm.trans hhead)
    obtain rfl : f = fb := hplaces _ _ _ _ _ _ hlies' hblies rfl
    obtain ⟨sj, sk, hsj, hsk, hfs⟩ :=
      h.functionScope_eq_of_mem_chain hchain (by rw [hbnode, hrnode])
    rw [hsr] at hsj
    rw [hsb] at hsk
    cases hsj
    cases hsk
    rw [hbfs, hrfs, hfs]

/-- A reference at the place of an identifier that lies in the function `f` is local exactly
when it resolved to a binding below the module scope that is declared in `f`. -/
theorem Placed.isLocal_iff (h : a.Placed P) (hsound : a.Sound) (hplaces : P.PlacesFunctions)
    {r : Reference} (hr : r ∈ a.references.toList) {sp : Span} {name : String} {f : Node}
    (hx : Node.LiesIn P (.identifier sp name) f) (hoff : sp.start.offset = r.span.start.offset) :
    a.isLocal r = true ↔
      ∃ b, r.binding.bind a.binding? = some b ∧ b.scope ≠ moduleScope ∧ b.DeclaredIn P f := by
  unfold isLocal
  cases hkey : r.binding with
  | none => simp
  | some key =>
    cases hb : a.binding? key with
    | none => simp [hb]
    | some b =>
      simp only [Option.bind_some, hb, Option.some.injEq, exists_eq_left', Bool.and_eq_true,
        bne_iff_ne, ne_eq, beq_iff_eq]
      rw [h.functionScope_eq_iff hsound hplaces hr hkey hb hx hoff]

/-- The binding that the reference made at `sp` resolved to. -/
def bindingAt (a : Arena) (sp : Span) : Option Binding :=
  (a.referenceAt sp.start.offset).bind fun r => r.binding.bind a.binding?

theorem mem_of_referenceAt {start : Nat} {r : Reference} (h : a.referenceAt start = some r) :
    r ∈ a.references.toList ∧ r.span.start.offset = start := by
  unfold referenceAt at h
  exact ⟨List.mem_reverse.1 (List.mem_of_find?_eq_some h), by simpa using List.find?_some h⟩

end Arena

open ScopeBuilder in
/-- The walk of a program read from a text places every scope, binding and reference: each
scope's function scope stands for the function its node lies in, and each binding and
reference sits in a scope of the function its identifier lies in. -/
theorem analyzeScopes_placed {P : Node} (hP : P.WellShaped) : (analyzeScopes P).Placed P := by
  have hprog := hP.program
  obtain ⟨sp, body, isModule, rfl⟩ := hprog
  -- each statement of the program lies in the program itself
  have hroot : Node.LiesIn (.program sp body isModule) (.program sp body isModule)
      (.program sp body isModule) := .root
  have hbody : ∀ c ∈ body, Node.LiesIn _ c (.program sp body isModule) ∧ c.Shaped := fun c hc =>
    ⟨(hroot.enter c hc rfl).1, ⟨false, false, hP.nests c hc⟩⟩
  unfold analyzeScopes
  rw [visit.eq_def]
  exact (addScope_module_bind_places (fun m =>
    Places.bind (hoistVars_places _ m fun c hc => ⟨hP.nests c hc, (hbody c hc).1⟩) fun _ =>
      hoistLexical_visitAll_places (fun c hc => (hbody c hc).1) fun c hc =>
        (placesOn hP.program c).visit m _ (hbody c hc).1 (hbody c hc).2)
    (Arena.placed_empty _)).1

/-- An identifier of a program read from a text is local, as the scopes of the program have
it, exactly when the reference at its place resolved to a binding below the module scope that is
declared in the function the identifier lies in. -/
theorem analyzeScopes_isLocal_iff {P f : Node} {sp : Span} {name : String} (hP : P.WellShaped)
    (hplaces : P.PlacesFunctions) (hx : Node.LiesIn P (.identifier sp name) f) :
    ((analyzeScopes P).referenceAt sp.start.offset).any (analyzeScopes P).isLocal = true ↔
      ∃ b, (analyzeScopes P).bindingAt sp = some b ∧ b.scope ≠ moduleScope ∧ b.DeclaredIn P f := by
  unfold Arena.bindingAt
  cases hr : (analyzeScopes P).referenceAt sp.start.offset with
  | none => simp
  | some r =>
    obtain ⟨hmem, hoff⟩ := Arena.mem_of_referenceAt hr
    exact (analyzeScopes_placed hP).isLocal_iff (analyzeScopes_sound P) hplaces hmem hx hoff.symm

/-! ## Deciding that functions are placed -/

namespace Node

/-- Each node of `n`, which lies in the function `g`, with the function it lies in: the relation
`LiesIn` computed, node by node. -/
def placements (g n : Node) : List (Node × Node) :=
  (n, g) :: ((n.functionName?.toList.attach.flatMap fun ⟨c, _⟩ => placements g c) ++
    n.innerChildren.attach.flatMap fun ⟨c, _⟩ => placements (if n.opensFunction then n else g) c)
termination_by sizeOf n
decreasing_by
  · refine sizeOf_lt_of_mem_children ?_
    rw [children_eq]
    exact List.mem_append_left _ ‹_›
  · exact sizeOf_lt_of_mem_children (mem_children_of_mem_innerChildren ‹_›)

/-- What lies in `n` lies in the tree: by induction on how `n` lies in `P`. -/
theorem LiesIn.placements_subset {P n f : Node} (h : LiesIn P n f) :
    placements f n ⊆ placements P P := by
  induction h with
  | root => exact List.Subset.refl _
  | @name n f c _ hc ih =>
    refine fun e he => ih ?_
    rw [placements]
    refine List.mem_cons_of_mem _ (List.mem_append_left _ (List.mem_flatMap.2 ?_))
    exact ⟨⟨c, by simp [hc]⟩, List.mem_attach _ _, he⟩
  | @inner n f c _ hc ih =>
    refine fun e he => ih ?_
    rw [placements]
    exact List.mem_cons_of_mem _ (List.mem_append_right _ (List.mem_flatMap.2
      ⟨⟨c, hc⟩, List.mem_attach _ _, he⟩))

theorem LiesIn.mem_placements {P n f : Node} (h : LiesIn P n f) : (n, f) ∈ placements P P :=
  h.placements_subset (by rw [placements]; exact List.mem_cons_self)

/-- The function a node of a program lies in opens a function and lies in the program. -/
theorem LiesIn.function {P n f : Node} (hP : ∃ sp body isModule, P = program sp body isModule)
    (h : LiesIn P n f) : f.opensFunction = true ∧ ∃ g, LiesIn P f g := by
  induction h with
  | root =>
    obtain ⟨sp, body, isModule, rfl⟩ := hP
    exact ⟨rfl, _, .root⟩
  | name _ _ ih => exact ih
  | @inner n f c hn _ ih =>
    by_cases hopen : n.opensFunction = true
    · simpa [hopen] using ⟨f, hn⟩
    · simpa [hopen] using ih

/-- The place of each identifier of `P` with the span of the function it lies in. -/
def identifierPlaces (P : Node) : List (Nat × Span) :=
  (P.placements P).filterMap fun (m, f) => match m with
    | identifier sp _ => some (sp.start.offset, f.span)
    | _ => none

/-- The spans of the nodes of `P` that open a function. -/
def functionSpans (P : Node) : List Span :=
  ((P.placements P).filter (·.1.opensFunction)).map (·.1.span)

/-- A program places its functions when the identifiers at one place lie in functions with one
span, and no two functions of the program have one span: both computed. -/
theorem placesFunctions_of_spans {P : Node} (hP : ∃ sp body isModule, P = program sp body isModule)
    (hplaces : ∀ e ∈ P.identifierPlaces, ∀ e' ∈ P.identifierPlaces, e.1 = e'.1 → e.2 = e'.2)
    (hspans : P.functionSpans.Nodup) : P.PlacesFunctions := by
  intro sp sp' name name' f f' h h' hoff
  have hplace : ∀ {sp name f}, LiesIn P (identifier sp name) f →
      (sp.start.offset, f.span) ∈ P.identifierPlaces := fun h =>
    List.mem_filterMap.2 ⟨_, h.mem_placements, rfl⟩
  have hspan : f.span = f'.span := hplaces _ (hplace h) _ (hplace h') hoff
  -- each function is a node of the program that opens one, and their spans tell them apart
  have hopener : ∀ {n f}, LiesIn P n f →
      ∃ g, (f, g) ∈ (P.placements P).filter (·.1.opensFunction) := fun h => by
    obtain ⟨hopen, g, hg⟩ := h.function hP
    exact ⟨g, List.mem_filter.2 ⟨hg.mem_placements, hopen⟩⟩
  obtain ⟨g, hg⟩ := hopener h
  obtain ⟨g', hg'⟩ := hopener h'
  exact congrArg Prod.fst (List.inj_on_of_nodup_map hspans hg hg' hspan)

end Node

end ScriptGate
