import ScriptGate.Proofs.OptionalChain.Scopes

/-!
# The scope builder walks an erased tree in step

`ScopeBuilder.visit`, `function`, `patternExpressions` and `target` call one
another on a node and on the nodes below it.  `BuildsInStep n` says that all
four, run on `n` with its chains erased, run in step with the same walk of `n`
(`ScopeBuilder.Erases`).  One lemma per walk proves it of a node from the same
fact for the nodes below it (`StepsBelow`), with one case per kind of node the
walk treats apart; well-founded induction on the size of the tree then gives it
for every transparent tree (`buildsInStep`), and `analyzeScopes_eraseChains`
reads off the arena.

A chain is walked as its link.  Where a handler matches a child against a kind
of node (a block body, a declaration in a loop head, a declarator, a property,
a case), an erased chain is a member or a call and falls to the same branch as
the chain.
-/

namespace ScriptGate

namespace ScopeBuilder

open Node

/-- The four walks of the builder run in step on a node with its chains erased. -/
structure BuildsInStep (n : Node) : Prop where
  visit : ∀ s, Erases (visit n.eraseChains s) (visit n s)
  function : ∀ s, Erases (function n.eraseChains s) (function n s)
  patternExpressions : ∀ s, Erases (patternExpressions n.eraseChains s) (patternExpressions n s)
  target : ∀ s read, Erases (target n.eraseChains s read) (target n s read)

/-- Every transparent node smaller than `n` is built in step. -/
def StepsBelow (n : Node) : Prop :=
  ∀ c, sizeOf c < sizeOf n → c.chainTransparent = true → BuildsInStep c

theorem StepsBelow.child {n c : Node} (ih : StepsBelow n) (h : n.chainTransparent = true)
    (hc : c ∈ n.children) : BuildsInStep c :=
  ih c (sizeOf_lt_of_mem_children hc) (chainTransparent_of_mem_children h hc)

theorem StepsBelow.of_le {n m : Node} (ih : StepsBelow n) (hle : sizeOf m ≤ sizeOf n) :
    StepsBelow m := fun c hc => ih c (Nat.lt_of_lt_of_le hc hle)

theorem StepsBelow.below {n c : Node} (ih : StepsBelow n) (hc : c ∈ n.children) : StepsBelow c :=
  ih.of_le (Nat.le_of_lt (sizeOf_lt_of_mem_children hc))

theorem visitAll_erases {ns : List Node}
    (h : ∀ c ∈ ns, ∀ s, Erases (visit c.eraseChains s) (visit c s)) (s : Nat) :
    Erases (visitAll (ns.map eraseChains) s) (visitAll ns s) := by
  rw [visitAll, visitAll]
  exact Erases.forM_attach_map rfl fun c hc => h c hc s

theorem visitOption_erases {o : Option Node}
    (h : ∀ c ∈ o, ∀ s, Erases (visit c.eraseChains s) (visit c s)) (s : Nat) :
    Erases (visitOption (o.map eraseChains) s) (visitOption o s) := by
  cases o with
  | none =>
    simp only [Option.map_none, visitOption]
    exact Erases.pure _
  | some c =>
    simp only [Option.map_some, visitOption]
    exact h c rfl s

theorem function_erases_step {n : Node} (h : n.chainTransparent = true) (ih : StepsBelow n)
    (parent : Nat) : Erases (function n.eraseChains parent) (function n parent) := by
  cases hn : n.isChain
  case true =>
    cases n
    case chainExpression sp e =>
      rcases eraseChains_link h with ⟨_, _, _, he⟩ | ⟨_, _, he⟩ <;> rw [he] <;>
        simp only [function] <;> exact Erases.pure _
    all_goals exact absurd hn Bool.false_ne_true
  case false =>
    rw [function.eq_def n.eraseChains, function.eq_def n]
    cases n
    case functionDeclaration sp i ps b g a | functionExpression sp i ps b g a
        | arrowFunctionExpression sp ps b g a =>
      dsimp only [eraseChains]
      have hb := ih.child h (c := b) (by simp [children])
      have ihb := ih.below (c := b) (by simp [children])
      have hbt := chainTransparent_of_mem_children (c := b) h (by simp [children])
      refine Erases.bind (addScope_erases _ (by rfl) _) fun f => ?_
      refine Erases.bind (Erases.forM_attach_map (eraseChainsList_eq_map ps) fun p hp => ?_) fun _ => ?_
      · have hpt := chainTransparent_of_mem_children (c := p) h (by simp [children, hp])
        dsimp only
        rw [patternIdentifiers_eraseChains p hpt]
        exact Erases.bind (Erases.forM fun _ _ => declareInitialized_erases _ _ _) fun _ =>
          (ih.child h (c := p) (by simp [children, hp])).patternExpressions f
      · cases hbc : b.isChain
        case true =>
          cases b
          case chainExpression sp' e =>
            have hv := hb.visit f
            rcases eraseChains_link hbt with ⟨_, _, _, he⟩ | ⟨_, _, he⟩ <;> rw [he] at hv ⊢ <;> exact hv
          all_goals exact absurd hbc Bool.false_ne_true
        case false =>
          cases b
          case blockStatement sp' stmts =>
            have hstmts : ∀ st ∈ stmts, st.chainTransparent = true := fun st hst =>
              chainTransparent_of_mem_children hbt (by simpa [children] using hst)
            dsimp only [eraseChains]
            refine Erases.bind (hoistVars_erases (blockStatement sp' stmts) hbt f) fun _ => ?_
            rw [eraseChainsList_eq_map]
            exact Erases.bind (Erases.of_eq (hoistLexical_eraseChains hstmts f)
              (hoistLexical_erases stmts f)) fun _ =>
                visitAll_erases (fun st hst => (ihb.child hbt (by simpa [children] using hst)).visit) f
          case chainExpression => simp [isChain] at hbc
          all_goals exact hb.visit f
    case chainExpression => simp [isChain] at hn
    all_goals exact Erases.pure _


theorem patternExpressions_erases_step {p : Node} (h : p.chainTransparent = true)
    (ih : StepsBelow p) (scope : Nat) :
    Erases (patternExpressions p.eraseChains scope) (patternExpressions p scope) := by
  cases hn : p.isChain
  case true =>
    cases p
    case chainExpression sp e =>
      rcases eraseChains_link h with ⟨_, _, _, he⟩ | ⟨_, _, he⟩ <;> rw [he] <;>
        simp only [patternExpressions] <;> exact Erases.pure _
    all_goals exact absurd hn Bool.false_ne_true
  case false =>
    rw [patternExpressions.eq_def p.eraseChains, patternExpressions.eq_def p]
    cases p
    case assignmentPattern sp l r =>
      exact Erases.bind ((ih.child h (c := l) (by simp [children])).patternExpressions scope)
        fun _ => (ih.child h (c := r) (by simp [children])).visit scope
    case objectPattern sp props =>
      refine Erases.forM_attach_map (eraseChainsList_eq_map props) fun q hq => ?_
      have hqc : q ∈ (objectPattern sp props).children := by simpa [children] using hq
      have hqs := ih.child h hqc
      have ihq := ih.below hqc
      have hqt := chainTransparent_of_mem_children h hqc
      dsimp only
      cases hqc' : q.isChain
      case true =>
        cases q
        case chainExpression sp' e =>
          -- the erased chain is a member or a call, which no property pattern matches
          split
          · rcases eraseChains_link hqt with ⟨_, _, _, he⟩ | ⟨_, _, he⟩ <;> simp only [he, reduceCtorEq] at *
          · exact hqs.patternExpressions scope
        all_goals exact absurd hqc' Bool.false_ne_true
      case false =>
        cases q
        case property sp' k v kind computed method shorthand =>
          have hv := (ihq.child hqt (c := v) (by simp [children])).patternExpressions scope
          dsimp only [eraseChains]
          cases computed
          · exact hv
          · exact Erases.bind ((ihq.child hqt (c := k) (by simp [children])).visit scope) fun _ => hv
        case chainExpression => simp [isChain] at hqc'
        all_goals exact hqs.patternExpressions scope
    case arrayPattern sp es =>
      refine Erases.forM_attach_map (eraseChainsElements_eq_map es) fun o ho => ?_
      cases o with
      | none => exact Erases.pure _
      | some e =>
        exact (ih.child h (c := e) (by simpa [children] using ho)).patternExpressions scope
    case restElement sp a =>
      exact (ih.child h (c := a) (by simp [children])).patternExpressions scope
    case chainExpression => simp [isChain] at hn
    all_goals exact Erases.pure _


theorem target_erases_step {t : Node} (h : t.chainTransparent = true) (ih : StepsBelow t)
    (hv : ∀ s, Erases (visit t.eraseChains s) (visit t s)) (scope : Nat) (read : Bool) :
    Erases (target t.eraseChains scope read) (target t scope read) := by
  cases hn : t.isChain
  case true =>
    cases t
    case chainExpression sp e =>
      -- a chain is no pattern: both sides walk it as an expression
      have hvs := hv scope
      rcases eraseChains_link h with ⟨_, _, _, he⟩ | ⟨_, _, he⟩ <;> rw [he] at hvs ⊢ <;>
        rw [target.eq_def, target.eq_def] <;> exact hvs
    all_goals exact absurd hn Bool.false_ne_true
  case false =>
    have hvs := hv scope
    rw [target.eq_def t.eraseChains, target.eq_def t]
    cases t
    case identifier sp name => exact Erases.bind (addReference_erases _ _ _ _) fun _ => Erases.pure _
    case assignmentPattern sp l r =>
      exact Erases.bind ((ih.child h (c := l) (by simp [children])).target scope read)
        fun _ => (ih.child h (c := r) (by simp [children])).visit scope
    case objectPattern sp props =>
      refine Erases.forM_attach_map (eraseChainsList_eq_map props) fun q hq => ?_
      have hqc : q ∈ (objectPattern sp props).children := by simpa [children] using hq
      have hqs := ih.child h hqc
      have ihq := ih.below hqc
      have hqt := chainTransparent_of_mem_children h hqc
      dsimp only
      cases hqc' : q.isChain
      case true =>
        cases q
        case chainExpression sp' e =>
          split
          · rcases eraseChains_link hqt with ⟨_, _, _, he⟩ | ⟨_, _, he⟩ <;>
              simp only [he, reduceCtorEq] at *
          · exact hqs.target scope read
        all_goals exact absurd hqc' Bool.false_ne_true
      case false =>
        cases q
        case property sp' k v kind computed method shorthand =>
          have hv' := (ihq.child hqt (c := v) (by simp [children])).target scope read
          dsimp only [eraseChains]
          cases computed
          · exact hv'
          · exact Erases.bind ((ihq.child hqt (c := k) (by simp [children])).visit scope) fun _ => hv'
        case chainExpression => simp [isChain] at hqc'
        all_goals exact hqs.target scope read
    case arrayPattern sp es =>
      refine Erases.forM_attach_map (eraseChainsElements_eq_map es) fun o ho => ?_
      cases o with
      | none => exact Erases.pure _
      | some e => exact (ih.child h (c := e) (by simpa [children] using ho)).target scope read
    case restElement sp a =>
      exact (ih.child h (c := a) (by simp [children])).target scope read
    case chainExpression => simp [isChain] at hn
    all_goals exact hvs


/-- Declaring a name unless its identifier is declared already runs in step. -/
theorem declareUnlessDeclared_erases (i : Nat) (ident : Node) (kind : BindingKind) :
    Erases (do if ((← get).declaredAt ident.span.start.offset).isNone then
        let _ ← declare i ident kind)
      (do if ((← get).declaredAt ident.span.start.offset).isNone then
        let _ ← declare i ident kind) := by
  refine Erases.get_bind fun a => ?_
  rw [Arena.declaredAt_eraseChains]
  split
  · exact declare_erases_unit _ _ _
  · exact Erases.pure _

/-- Hoisting and then walking a statement list runs in step with the chains of its statements
erased. -/
theorem hoistLexical_visitAll_erases {stmts : List Node}
    (ht : ∀ st ∈ stmts, st.chainTransparent = true)
    (hv : ∀ st ∈ stmts, ∀ s, Erases (visit st.eraseChains s) (visit st s)) (s : Nat) :
    Erases (do hoistLexical (stmts.map eraseChains) s; visitAll (stmts.map eraseChains) s)
      (do hoistLexical stmts s; visitAll stmts s) :=
  Erases.bind (Erases.of_eq (hoistLexical_eraseChains ht s) (hoistLexical_erases stmts s)) fun _ =>
    visitAll_erases hv s

/-! ### The nodes that declare names or open scopes

One lemma for each such node; the step lemma after them takes the other nodes
case by case. -/

theorem variableDeclaration_erases {sp : Span} {ds : List Node} {kind : DeclarationKind}
    (h : (variableDeclaration sp ds kind).chainTransparent = true)
    (ih : StepsBelow (variableDeclaration sp ds kind)) (scope : Nat) :
    Erases (visit (variableDeclaration sp ds kind).eraseChains scope)
      (visit (variableDeclaration sp ds kind) scope) := by
  have htc : ∀ c ∈ (variableDeclaration sp ds kind).children, c.chainTransparent = true :=
    fun c hc => chainTransparent_of_mem_children h hc
  rw [visit.eq_def (variableDeclaration sp ds kind).eraseChains,
    visit.eq_def (variableDeclaration sp ds kind)]
  refine Erases.forM_attach_map (eraseChainsList_eq_map ds) fun d hd => ?_
  have hdc : d ∈ (variableDeclaration sp ds kind).children := hd
  have ihd := ih.below hdc
  have hdt := htc d hdc
  dsimp only
  cases hdc' : d.isChain
  case true =>
    cases d
    case chainExpression sp' e =>
      split
      · rcases eraseChains_link hdt with ⟨_, _, _, he⟩ | ⟨_, _, he⟩ <;>
          simp only [he, reduceCtorEq] at *
      · exact Erases.pure _
    all_goals exact absurd hdc' Bool.false_ne_true
  case false =>
    cases d
    case variableDeclarator sp' t init =>
      have htt := chainTransparent_of_mem_children hdt (c := t) (by simp [children])
      have hpe := (ihd.child hdt (c := t) (by simp [children])).patternExpressions scope
      have hdecl : Erases ((patternIdentifiers t).forM _) ((patternIdentifiers t).forM _) :=
        Erases.forM fun ident _ =>
          declareUnlessDeclared_erases scope ident (kind.binding)
      cases init with
      | none =>
        simp only [eraseChains, eraseChainsOption, patternIdentifiers_eraseChains t htt]
        exact Erases.bind hdecl fun _ => Erases.bind hpe fun _ => Erases.pure _
      | some v =>
        simp only [eraseChains, eraseChainsOption, patternIdentifiers_eraseChains t htt]
        exact Erases.bind hdecl fun _ => Erases.bind hpe fun _ =>
          Erases.bind (Erases.of_eq (markInitialized_eraseChains htt) (markInitialized_erases t))
            fun _ => (ihd.child hdt (c := v) (by simp [children])).visit scope
    case chainExpression => simp [isChain] at hdc'
    all_goals exact Erases.pure _

theorem classDeclaration_erases {sp : Span} {ident : Option Node} {sc : Option Node}
    {body : Node} (h : (classDeclaration sp ident sc body).chainTransparent = true)
    (ih : StepsBelow (classDeclaration sp ident sc body)) (scope : Nat) :
    Erases (visit (classDeclaration sp ident sc body).eraseChains scope)
      (visit (classDeclaration sp ident sc body) scope) := by
  have hchild : ∀ c ∈ (classDeclaration sp ident sc body).children, BuildsInStep c :=
    fun c hc => ih.child h hc
  have htc : ∀ c ∈ (classDeclaration sp ident sc body).children, c.chainTransparent = true :=
    fun c hc => chainTransparent_of_mem_children h hc
  rw [visit.eq_def (classDeclaration sp ident sc body).eraseChains,
    visit.eq_def (classDeclaration sp ident sc body)]
  have hrest : Erases
      (do visitOption (sc.map eraseChains) scope
          let c ← addScope .classBody (classDeclaration sp ident sc body).eraseChains (some scope)
          visit body.eraseChains c)
      (do visitOption sc scope
          let c ← addScope .classBody (classDeclaration sp ident sc body) (some scope)
          visit body c) :=
    Erases.bind (visitOption_erases
        (fun c hc => (hchild c (by simp [children, Option.mem_def.1 hc])).visit) scope)
      fun _ => Erases.bind (addScope_erases _ rfl _) fun c =>
        (hchild body (by simp [children])).visit c
  cases ident with
  | none =>
    simp only [eraseChains, eraseChainsOption_eq_map] at hrest ⊢
    exact hrest
  | some i =>
    have hit := htc i (by simp [children])
    simp only [eraseChains, eraseChainsOption_eq_map] at hrest ⊢
    refine Erases.get_bind fun a => ?_
    rw [Arena.declaredAt_eraseChains, span_eraseChains_of_chainTransparent hit,
      declare_eraseChains _ hit]
    split
    · exact Erases.bind (declare_erases _ _ _) fun _ => hrest
    · exact hrest

theorem classExpression_erases {sp : Span} {ident : Option Node} {sc : Option Node}
    {body : Node} (h : (classExpression sp ident sc body).chainTransparent = true)
    (ih : StepsBelow (classExpression sp ident sc body)) (scope : Nat) :
    Erases (visit (classExpression sp ident sc body).eraseChains scope)
      (visit (classExpression sp ident sc body) scope) := by
  have hchild : ∀ c ∈ (classExpression sp ident sc body).children, BuildsInStep c :=
    fun c hc => ih.child h hc
  have htc : ∀ c ∈ (classExpression sp ident sc body).children, c.chainTransparent = true :=
    fun c hc => chainTransparent_of_mem_children h hc
  rw [visit.eq_def (classExpression sp ident sc body).eraseChains,
    visit.eq_def (classExpression sp ident sc body)]
  have hbody := (hchild body (by simp [children])).visit
  have hsc := visitOption_erases (o := sc)
    (fun c hc => (hchild c (by simp [children, Option.mem_def.1 hc])).visit) scope
  cases ident with
  | none =>
    simp only [eraseChains, eraseChainsOption_eq_map]
    exact Erases.bind hsc fun _ => Erases.bind (addScope_erases _ (by simp [eraseChains]) _) hbody
  | some i =>
    simp only [eraseChains, eraseChainsOption_eq_map, Option.map_some,
      declare_eraseChains _ (htc i (by simp [children]))]
    exact Erases.bind hsc fun _ => Erases.bind (addScope_erases _ (by simp [eraseChains]) _)
      fun c => Erases.bind (declare_erases _ _ _) fun _ => hbody c

theorem catchClause_erases {sp : Span} {param : Option Node} {body : Node}
    (h : (catchClause sp param body).chainTransparent = true)
    (ih : StepsBelow (catchClause sp param body)) (scope : Nat) :
    Erases (visit (catchClause sp param body).eraseChains scope)
      (visit (catchClause sp param body) scope) := by
  have hchild : ∀ c ∈ (catchClause sp param body).children, BuildsInStep c :=
    fun c hc => ih.child h hc
  have htc : ∀ c ∈ (catchClause sp param body).children, c.chainTransparent = true := fun c hc =>
    chainTransparent_of_mem_children h hc
  rw [visit.eq_def (catchClause sp param body).eraseChains,
    visit.eq_def (catchClause sp param body)]
  have hbody := (hchild body (by simp [children])).visit
  refine Erases.bind (addScope_erases _ (by rfl) _) fun c => ?_
  cases param with
  | none => exact hbody c
  | some p =>
    have hpt := htc p (by simp [children])
    dsimp only [eraseChainsOption]
    rw [patternIdentifiers_eraseChains p hpt]
    exact Erases.bind (Erases.forM fun _ _ => declareInitialized_erases _ _ _) fun _ =>
      Erases.bind ((hchild p (by simp [children])).patternExpressions c) fun _ => hbody c

theorem exportNamedDeclaration_erases {sp : Span} {decl : Option Node} {specs : List Node}
    {src : Option Node} (h : (exportNamedDeclaration sp decl specs src).chainTransparent = true)
    (ih : StepsBelow (exportNamedDeclaration sp decl specs src)) (scope : Nat) :
    Erases (visit (exportNamedDeclaration sp decl specs src).eraseChains scope)
      (visit (exportNamedDeclaration sp decl specs src) scope) := by
  have hchild : ∀ c ∈ (exportNamedDeclaration sp decl specs src).children, BuildsInStep c :=
    fun c hc => ih.child h hc
  have htc : ∀ c ∈ (exportNamedDeclaration sp decl specs src).children, c.chainTransparent = true :=
    fun c hc => chainTransparent_of_mem_children h hc
  rw [visit.eq_def (exportNamedDeclaration sp decl specs src).eraseChains,
    visit.eq_def (exportNamedDeclaration sp decl specs src)]
  cases decl with
  | some d =>
    exact Erases.bind ((hchild d (by simp [children])).visit scope) fun _ =>
      Erases.of_eq (markExported_eraseChains (htc d (by simp [children]))) (markExported_erases d)
  | none =>
    cases src with
    | some _ => exact Erases.pure _
    | none =>
      simp only [eraseChains, eraseChainsOption, eraseChainsList_eq_map, forM_map]
      refine Erases.forM fun spec hspec => ?_
      have hst := htc spec (by simp [children, hspec])
      cases spec
      case exportSpecifier sp' l e =>
        simp only [Function.comp, eraseChains,
          addReference_eraseChains
            (chainTransparent_of_mem_children (c := l) hst (by simp [children]))]
        refine Erases.bind (addReference_erases _ _ _ _) fun key => ?_
        cases key with
        | none => exact Erases.pure _
        | some key => exact updateBinding_erases _ _
      case chainExpression sp' e =>
        rcases eraseChains_link hst with ⟨_, _, _, he⟩ | ⟨_, _, he⟩ <;>
          simp only [Function.comp, he] <;> exact Erases.pure _
      all_goals exact Erases.pure _

theorem switchStatement_erases {sp : Span} {disc : Node} {cases : List Node}
    (h : (switchStatement sp disc cases).chainTransparent = true)
    (ih : StepsBelow (switchStatement sp disc cases)) (scope : Nat) :
    Erases (visit (switchStatement sp disc cases).eraseChains scope)
      (visit (switchStatement sp disc cases) scope) := by
  have hchild : ∀ c ∈ (switchStatement sp disc cases).children, BuildsInStep c :=
    fun c hc => ih.child h hc
  have htc : ∀ c ∈ (switchStatement sp disc cases).children, c.chainTransparent = true :=
    fun c hc => chainTransparent_of_mem_children h hc
  rw [visit.eq_def (switchStatement sp disc cases).eraseChains,
    visit.eq_def (switchStatement sp disc cases)]
  refine Erases.bind ((hchild disc (by simp [children])).visit scope) fun _ => ?_
  refine Erases.bind (addScope_erases _ (by rfl) _) fun s => ?_
  rw [eraseChainsList_eq_map]
  refine Erases.bind (?_ : Erases _ _) fun _ => ?_
  · -- the cases' declarations are hoisted into the switch's scope
    rw [forM_map]
    refine Erases.forM fun c hc => ?_
    have hct := htc c (by simp [children, hc])
    cases c
    case switchCase sp' test cons =>
      simp only [Function.comp, eraseChains, eraseChainsList_eq_map]
      exact Erases.of_eq (hoistLexical_eraseChains (fun st hst =>
        chainTransparent_of_mem_children hct (by simp [children, hst])) s)
        (hoistLexical_erases cons s)
    case chainExpression sp' e =>
      rcases eraseChains_link hct with ⟨_, _, _, he⟩ | ⟨_, _, he⟩ <;>
        simp only [Function.comp, he] <;> exact Erases.pure _
    all_goals exact Erases.pure _
  · refine Erases.forM_attach_map rfl fun c hc => ?_
    have hcc : c ∈ (switchStatement sp disc cases).children := by simp [children, hc]
    have hct := htc c hcc
    have ihc := ih.below hcc
    dsimp only
    cases hc' : c.isChain
    case true =>
      cases c
      case chainExpression sp' e =>
        split
        · rcases eraseChains_link hct with ⟨_, _, _, he⟩ | ⟨_, _, he⟩ <;>
            simp only [he, reduceCtorEq] at *
        · exact Erases.pure _
      all_goals exact absurd hc' Bool.false_ne_true
    case false =>
      cases c
      case switchCase sp' test cons =>
        simp only [eraseChains, eraseChainsOption_eq_map, eraseChainsList_eq_map]
        exact Erases.bind (visitOption_erases (o := test) (fun t ht =>
            (ihc.child hct (c := t) (by simp [children, Option.mem_def.1 ht])).visit) s)
          fun _ => visitAll_erases (fun st hst =>
            (ihc.child hct (c := st) (by simp [children, hst])).visit) s
      case chainExpression => simp [isChain] at hc'
      all_goals exact Erases.pure _

theorem forStatement_erases {sp : Span} {init : Option Node} {test : Option Node}
    {update : Option Node} {body : Node}
    (h : (forStatement sp init test update body).chainTransparent = true)
    (ih : StepsBelow (forStatement sp init test update body)) (scope : Nat) :
    Erases (visit (forStatement sp init test update body).eraseChains scope)
      (visit (forStatement sp init test update body) scope) := by
  have hchild : ∀ c ∈ (forStatement sp init test update body).children, BuildsInStep c :=
    fun c hc => ih.child h hc
  have htc : ∀ c ∈ (forStatement sp init test update body).children, c.chainTransparent = true :=
    fun c hc => chainTransparent_of_mem_children h hc
  rw [visit.eq_def (forStatement sp init test update body).eraseChains,
    visit.eq_def (forStatement sp init test update body)]
  have hopt : ∀ o : Option Node, (∀ c ∈ o, c ∈ (forStatement sp init test update body).children) →
      ∀ s, Erases (visitOption (o.map eraseChains) s) (visitOption o s) := fun o ho =>
    visitOption_erases fun c hc => (hchild c (ho c hc)).visit
  have htail : ∀ s, Erases
      (do visitOption (init.map eraseChains) s; visitOption (test.map eraseChains) s
          visitOption (update.map eraseChains) s; visit body.eraseChains s)
      (do visitOption init s; visitOption test s; visitOption update s; visit body s) :=
    fun s => Erases.bind (hopt init (fun c hc => by simp [children, Option.mem_def.1 hc]) s)
      fun _ => Erases.bind (hopt test (fun c hc => by simp [children, Option.mem_def.1 hc]) s)
      fun _ => Erases.bind (hopt update (fun c hc => by simp [children, Option.mem_def.1 hc]) s)
      fun _ => (hchild body (by simp [children])).visit s
  simp only [eraseChains, eraseChainsOption_eq_map]
  cases init with
  | none => exact Erases.bind (Erases.pure _) htail
  | some d =>
    have hdt := htc d (by simp [children])
    cases hdc : d.isChain
    case true =>
      cases d
      case chainExpression sp' e =>
        split
        · rcases eraseChains_link hdt with ⟨_, _, _, he⟩ | ⟨_, _, he⟩ <;>
            simp only [Option.map_some, he, Option.some.injEq, reduceCtorEq] at *
        · exact Erases.bind (Erases.pure _) htail
      all_goals exact absurd hdc Bool.false_ne_true
    case false =>
      cases d
      case variableDeclaration sp' ds kind =>
        -- a lexical declaration in the head opens a scope of its own
        simp only [Option.map_some, eraseChains]
        by_cases hk : (kind != .var) = true
        · simp only [hk, ↓reduceIte]
          refine Erases.bind (addScope_erases _ (by simp [eraseChains]) _) fun s => ?_
          refine Erases.bind (Erases.of_eq ?_ (hoistLexical_erases _ s)) fun _ =>
            Erases.bind (Erases.pure s) htail
          exact hoistLexical_singleton_eraseChains _ hdt s
        · simp only [hk, Bool.false_eq_true, ↓reduceIte]
          exact Erases.bind (Erases.pure _) htail
      case chainExpression => simp [isChain] at hdc
      all_goals exact Erases.bind (Erases.pure _) htail

/-- A `for-in` and a `for-of` loop are walked alike. -/
theorem forInOf_erases {sp : Span} {l r b loop : Node}
    (hloop : loop = forInStatement sp l r b ∨ loop = forOfStatement sp l r b)
    (h : loop.chainTransparent = true) (ih : StepsBelow loop) (scope : Nat) :
    Erases (visit loop.eraseChains scope) (visit loop scope) := by
  have hchild : ∀ c ∈ loop.children, BuildsInStep c := fun c hc => ih.child h hc
  have htc : ∀ c ∈ loop.children, c.chainTransparent = true := fun c hc =>
    chainTransparent_of_mem_children h hc
  rw [visit.eq_def loop.eraseChains, visit.eq_def loop]
  rcases hloop with rfl | rfl
  all_goals
    refine Erases.bind ((hchild r (by simp [children])).visit scope) fun _ => ?_
    have hl := hchild l (by simp [children])
    have ihl := ih.below (c := l) (by simp [children])
    have hlt := htc l (by simp [children])
    have hb := (hchild b (by simp [children])).visit
    cases hlch : l.isChain
    case true =>
      cases l
      case chainExpression sp' e =>
        split
        · rcases eraseChains_link hlt with ⟨_, _, _, he⟩ | ⟨_, _, he⟩ <;>
            simp only [he, reduceCtorEq] at *
        · exact Erases.bind (hl.target scope false) fun _ => hb scope
      all_goals exact absurd hlch Bool.false_ne_true
    case false =>
      cases l
      case variableDeclaration sp' ds kind =>
        dsimp only [eraseChains]
        by_cases hk : (kind != .var) = true <;> simp only [hk, Bool.false_eq_true, ↓reduceIte]
        -- a lexical declaration opens a scope for the loop
        refine Erases.bind (addScope_erases _ (by rfl) _) fun s =>
          Erases.bind (Erases.of_eq (hoistLexical_singleton_eraseChains _ hlt s)
            (hoistLexical_erases _ s)) fun _ =>
          Erases.bind (Erases.pure s) fun s => Erases.bind ?_ fun _ => hb s
        rotate_left
        refine Erases.bind (Erases.pure scope) fun s => Erases.bind ?_ fun _ => hb s
        -- either way, each declarator's names are given their values and its pattern's
        -- expressions are walked
        all_goals
          refine Erases.forM_attach_map (eraseChainsList_eq_map ds) fun d hd => ?_
          have hdc : d ∈ (variableDeclaration sp' ds kind).children := hd
          have hdt := chainTransparent_of_mem_children hlt hdc
          cases hdch : d.isChain
          case true =>
            cases d
            case chainExpression sp'' e =>
              split
              · rcases eraseChains_link hdt with ⟨_, _, _, he⟩ | ⟨_, _, he⟩ <;>
                  simp only [he, reduceCtorEq] at *
              · exact Erases.pure _
            all_goals exact absurd hdch Bool.false_ne_true
          case false =>
            cases d
            case variableDeclarator sp'' t init =>
              have htt := chainTransparent_of_mem_children hdt (c := t) (by simp [children])
              simp only [eraseChains, markInitialized_eraseChains htt]
              exact Erases.bind (markInitialized_erases t) fun _ =>
                ((ihl.below hdc).child hdt (c := t) (by simp [children])).patternExpressions _
            case chainExpression => simp [isChain] at hdch
            all_goals exact Erases.pure _
      case chainExpression => simp [isChain] at hlch
      all_goals exact Erases.bind (hl.target scope false) fun _ => hb scope

theorem visit_erases_step {n : Node} (h : n.chainTransparent = true) (ih : StepsBelow n)
    (hf : ∀ s, Erases (function n.eraseChains s) (function n s)) (scope : Nat) :
    Erases (visit n.eraseChains scope) (visit n scope) := by
  have hchild : ∀ c ∈ n.children, BuildsInStep c := fun c hc => ih.child h hc
  have htc : ∀ c ∈ n.children, c.chainTransparent = true := fun c hc =>
    chainTransparent_of_mem_children h hc
  cases hn : n.isChain
  case true =>
    cases n
    case chainExpression sp e =>
      -- a chain is walked as its link
      have hv := (hchild e (by simp [children])).visit scope
      rw [eraseChains_chainExpression, visit.eq_def (chainExpression sp e)]
      simp only [children, List.attach_cons, List.attach_nil, List.map_nil, List.forM]
      rw [← bind_pure_unit (x := visit e.eraseChains scope)]
      exact Erases.bind hv fun _ => Erases.pure _
    all_goals exact absurd hn Bool.false_ne_true
  case false =>
    cases n
    case variableDeclaration => exact variableDeclaration_erases h ih scope
    case classDeclaration => exact classDeclaration_erases h ih scope
    case classExpression => exact classExpression_erases h ih scope
    case catchClause => exact catchClause_erases h ih scope
    case exportNamedDeclaration => exact exportNamedDeclaration_erases h ih scope
    case switchStatement => exact switchStatement_erases h ih scope
    case forStatement => exact forStatement_erases h ih scope
    case forInStatement => exact forInOf_erases (.inl rfl) h ih scope
    case forOfStatement => exact forInOf_erases (.inr rfl) h ih scope
    all_goals rw [visit.eq_def (eraseChains _), visit.eq_def]
    case program sp body st =>
      dsimp only [eraseChains]
      refine Erases.bind (addScope_erases _ (by rfl) _) fun m => ?_
      refine Erases.bind (hoistVars_erases (program sp body st) h m) fun _ => ?_
      rw [eraseChainsList_eq_map]
      exact hoistLexical_visitAll_erases (fun st hst => htc st hst)
        (fun st hst => (hchild st hst).visit) m
    case identifier sp name =>
      exact Erases.bind (addReference_erases _ _ _ _) fun _ => Erases.pure _
    case functionDeclaration sp ident ps b g a =>
      cases ident with
      | none => exact hf scope
      | some i =>
        have hit := htc i (by simp [children])
        dsimp only [eraseChains, eraseChainsOption]
        refine Erases.get_bind fun a => ?_
        rw [Arena.declaredAt_eraseChains, span_eraseChains_of_chainTransparent hit,
          declare_eraseChains _ hit]
        split
        · exact Erases.bind (declare_erases _ _ _) fun _ => hf scope
        · exact hf scope
    case functionExpression sp ident ps b g a =>
      cases ident with
      | none => exact hf scope
      | some i =>
        have hit := htc i (by simp [children])
        dsimp only [eraseChains, eraseChainsOption]
        refine Erases.bind (addScope_erases _ (by rfl) _) fun m => ?_
        rw [declare_eraseChains _ hit]
        exact Erases.bind (declare_erases _ _ _) fun _ => hf m
    case arrowFunctionExpression => exact hf scope
    case blockStatement sp body =>
      dsimp only [eraseChains]
      refine Erases.bind (addScope_erases _ (by rfl) _) fun m => ?_
      rw [eraseChainsList_eq_map]
      exact hoistLexical_visitAll_erases (fun st hst => htc st hst)
        (fun st hst => (hchild st hst).visit) m
    case staticBlock sp body =>
      dsimp only [eraseChains]
      refine Erases.bind (addScope_erases _ (by rfl) _) fun m => ?_
      refine Erases.bind (hoistVars_erases (staticBlock sp body) h m) fun _ => ?_
      rw [eraseChainsList_eq_map]
      exact hoistLexical_visitAll_erases (fun st hst => htc st hst)
        (fun st hst => (hchild st hst).visit) m
    case assignmentExpression sp op l r =>
      exact Erases.bind ((hchild l (by simp [children])).target scope _) fun _ =>
        (hchild r (by simp [children])).visit scope
    case memberExpression sp o p computed opt =>
      refine Erases.bind ((hchild o (by simp [children])).visit scope) fun _ => ?_
      cases computed
      · exact Erases.pure _
      · exact (hchild p (by simp [children])).visit scope
    case property sp k v kind computed method shorthand =>
      have hv := (hchild v (by simp [children])).visit scope
      cases computed
      · exact hv
      · exact Erases.bind ((hchild k (by simp [children])).visit scope) fun _ => hv
    case methodDefinition sp k computed v kind static =>
      have hv := (hchild v (by simp [children])).visit scope
      cases computed
      · exact hv
      · exact Erases.bind ((hchild k (by simp [children])).visit scope) fun _ => hv
    case propertyDefinition sp k computed v static =>
      have hv : Erases (visitOption (v.map eraseChains) scope) (visitOption v scope) :=
        visitOption_erases (fun c hc => (hchild c (by simp [children]; exact Or.inr hc)).visit) scope
      dsimp only [eraseChains, eraseChainsOption]
      rw [eraseChainsOption_eq_map]
      cases computed
      · exact hv
      · exact Erases.bind ((hchild k (by simp [children])).visit scope) fun _ => hv
    case privateIdentifier | breakStatement | continueStatement | metaProperty
        | importDeclaration | exportAllDeclaration => exact Erases.pure _
    case labeledStatement sp l body => exact (hchild body (by simp [children])).visit scope
    case exportDefaultDeclaration sp d =>
      exact Erases.bind ((hchild d (by simp [children])).visit scope) fun _ =>
        Erases.of_eq (markExported_eraseChains (htc d (by simp [children]))) (markExported_erases d)
    case updateExpression sp op a pre =>
      have hva := (hchild a (by simp [children])).visit scope
      -- the operand of `++` or `--` is no chain
      have hac : a.isChain = false := by
        simpa [exposesChain] using exposesChain_eq_false h
      cases a
      case identifier sp' name => exact Erases.bind (addReference_erases _ _ _ _) fun _ => Erases.pure _
      case chainExpression => simp [isChain] at hac
      all_goals exact hva
    case chainExpression => simp [isChain] at hn
    all_goals exact Erases.forM_attach_map (children_eraseChains hn) fun c hc => (hchild c hc).visit scope


/-- Every transparent tree is built in step with its chains erased, by all four walks. -/
theorem buildsInStep (n : Node) (h : n.chainTransparent = true) : BuildsInStep n := by
  have ih : StepsBelow n := fun c _ hc => buildsInStep c hc
  have hf := function_erases_step h ih
  have hv := visit_erases_step h ih hf
  exact ⟨hv, hf, patternExpressions_erases_step h ih, target_erases_step h ih hv⟩
termination_by sizeOf n

end ScopeBuilder

/-- The scopes of a transparent program with its chains erased are its scopes, with the chains
of the nodes that open them erased. -/
theorem analyzeScopes_eraseChains {P : Node} (h : P.chainTransparent = true) :
    analyzeScopes P.eraseChains = (analyzeScopes P).eraseChains := by
  have hrun := (ScopeBuilder.buildsInStep P h).visit moduleScope {}
  have hempty : ({} : Arena).eraseChains = {} := by simp [Arena.eraseChains]
  rw [hempty] at hrun
  exact congrArg Prod.snd hrun

end ScriptGate
