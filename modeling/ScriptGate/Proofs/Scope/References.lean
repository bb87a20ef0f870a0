import ScriptGate.Proofs.Scope.Chain
import ScriptGate.Proofs.Pattern

/-!
# Which identifiers are references

`Node.useSites` says, by recursion on the tree and without the arena, which identifiers of
a program name something where they stand, and so are references: all but those that
declare names, spell keys, labels and the words of an import or a re-export, and those the
walk never enters.

Each walk of the builder appends exactly the use sites of the node it walks, in order, and
keeps the arena sound (`ScopeBuilder.addsOn`).  The proof is a well-founded induction over
the tree, with one case per handler of `ScopeBuilder.visit` and its three sibling walks, on
top of one lemma per primitive step (`ScopeBuilder.Adds`).  So the references of a program
are, in order, its use sites (`references_eq_useSites`), and every reference that resolved
names a binding of its name on its chain (`analyzeScopes_sound`).

A leaf of a declaration pattern that is not an identifier, such as the member expression in
`const [b.c] = x;`, is not walked at all: `b` is used there and yet has no reference
(`memberLeaf_unreferenced`).
-/

namespace ScriptGate

namespace Node

mutual

/-- The identifiers of a tree that the walk refers to, by name and place, in the order it meets
them.  That is every identifier, except: the names a declaration introduces (declarators,
parameters and `catch` parameters, with the identifier leaves of their patterns; the names of
functions and classes), the keys of members, properties, methods and fields that are not
computed, labels, private names, the parts of `new.target`, and all of an import, of a
re-export, and of the names an export spells.  Nor is anything walked inside a leaf of a
declaration pattern that is not an identifier, nor in the value of a declarator in the head of
a `for`-`in` or `for`-`of` loop, whose right side is met first. -/
def useSites (n : Node) : List (String × Span) :=
  match n with
  | identifier sp name => [(name, sp)]
  | functionDeclaration _ _ params body .. | functionExpression _ _ params body ..
  | arrowFunctionExpression _ params body .. => params.flatMap patternUses ++ useSites body
  | variableDeclaration _ ds _ =>
    ds.flatMap fun d => match _hd : d with
      | variableDeclarator _ target (some v) => patternUses target ++ useSites v
      | variableDeclarator _ target none => patternUses target
      | _ => []
  | memberExpression _ o p computed _ => useSites o ++ if computed then useSites p else []
  | property _ k v _ computed _ _ | methodDefinition _ k computed v _ _ =>
    (if computed then useSites k else []) ++ useSites v
  | propertyDefinition _ k computed v _ =>
    (if computed then useSites k else []) ++ optionUseSites v
  | privateIdentifier .. | breakStatement .. | continueStatement .. | metaProperty ..
  | importDeclaration .. | exportAllDeclaration .. => []
  | classDeclaration _ _ superClass body | classExpression _ _ superClass body =>
    optionUseSites superClass ++ useSites body
  | forInStatement _ left right body | forOfStatement _ left right body =>
    useSites right ++ loopHeadUses left ++ useSites body
  | catchClause _ param body =>
    (match _hp : param with
      | some p => patternUses p
      | none => []) ++ useSites body
  | switchStatement _ disc cases =>
    useSites disc ++ cases.flatMap fun c => match _hc : c with
      | switchCase _ test cons => optionUseSites test ++ cons.flatMap useSites
      | _ => []
  | labeledStatement _ _ body => useSites body
  | exportNamedDeclaration _ (some d) _ _ => useSites d
  | exportNamedDeclaration _ none specs source =>
    if source.isNone then specs.flatMap fun spec => match spec with
      | exportSpecifier _ l _ => l.site
      | _ => []
    else []
  | other => other.children.attach.flatMap fun ⟨c, _⟩ => useSites c
termination_by 2 * sizeOf n
decreasing_by
  all_goals
    subst_vars
    first
    | (simp <;> omega)
    | (have hs := sizeOf_lt_of_mem_children ‹_›; simp at hs ⊢ <;> omega)
    | (have hs := List.sizeOf_lt_of_mem ‹_ ∈ _›; simp at hs ⊢ <;> omega)
    | (have hst := List.sizeOf_lt_of_mem ‹_ ∈ cons›
       have hc := List.sizeOf_lt_of_mem ‹_ ∈ cases›
       simp at hst hc ⊢
       omega)

/-- The use sites of a node that may be absent. -/
def optionUseSites (o : Option Node) : List (String × Span) :=
  match o with
  | some n => useSites n
  | none => []
termination_by 2 * sizeOf o

/-- The use sites of the head of a `for`-`in` or `for`-`of` loop: of a declaration, only those
in its patterns; of any other target, all of them. -/
def loopHeadUses (left : Node) : List (String × Span) :=
  match left with
  | variableDeclaration _ ds _ =>
    ds.flatMap fun d => match _hd : d with
      | variableDeclarator _ t _ => patternUses t
      | _ => []
  | other => useSites other
termination_by 2 * sizeOf left + 1
decreasing_by
  all_goals
    subst_vars
    first
    | (simp <;> omega)
    | (have hs := List.sizeOf_lt_of_mem ‹_ ∈ _›; simp at hs ⊢ <;> omega)

/-- The identifiers a declaration pattern refers to: those in its default values and computed
keys.  Its identifier leaves declare names, and its other leaves are not walked. -/
def patternUses (p : Node) : List (String × Span) :=
  match p with
  | assignmentPattern _ l r => patternUses l ++ useSites r
  | objectPattern _ props =>
    props.flatMap fun prop => match _hp : prop with
      | property _ k v _ computed _ _ => (if computed then useSites k else []) ++ patternUses v
      | other => patternUses other
  | arrayPattern _ es =>
    es.flatMap fun e => match _he : e with
      | some e => patternUses e
      | none => []
  | restElement _ a => patternUses a
  | _ => []
termination_by 2 * sizeOf p
decreasing_by
  all_goals
    subst_vars
    first
    | (simp <;> omega)
    | (have hs := List.sizeOf_lt_of_mem ‹_ ∈ _›; simp at hs ⊢ <;> omega)

end

example : (functionDeclaration (.onFirstLine 0 23) (some (identifier (.onFirstLine 9 10) "f"))
      [assignmentPattern (.onFirstLine 11 16) (identifier (.onFirstLine 11 12) "a")
          (identifier (.onFirstLine 15 16) "b"),
        identifier (.onFirstLine 18 19) "b"]
      (blockStatement (.onFirstLine 21 23) []) false false).useSites =
    [("b", .onFirstLine 15 16)] := by decide +kernel

/-- The default arm of `useSites`, with the proofs of membership dropped. -/
@[simp] theorem flatMap_attach_useSites (xs : List Node) :
    (xs.attach.flatMap fun x => x.1.useSites) = xs.flatMap useSites := by
  rw [List.flatMap_subtype (fun _ _ => rfl), List.unattach_attach]

@[simp] theorem flatMap_toList_useSites (o : Option Node) :
    o.toList.flatMap useSites = optionUseSites o := by
  cases o <;> simp [optionUseSites]

/-- Holes aside, an array pattern refers to what its elements refer to. -/
theorem useSites_arrayPattern (sp : Span) (es : List (Option Node)) :
    (arrayPattern sp es).useSites = es.flatMap fun e => match e with
      | some e => e.useSites
      | none => [] := by
  simp only [useSites, children, flatMap_attach_useSites]
  induction es with
  | nil => rfl
  | cons e es ih =>
    cases e with
    | none => exact ih
    | some e => exact congrArg (e.useSites ++ ·) ih

end Node

namespace ScopeBuilder

open Node

/-! ## Each walk adds the use sites of its node -/

/-- The four walks of the builder on a node: each keeps the arena sound and adds the node's
use sites (the parameters and body of a function, the uses of a pattern). -/
structure AddsOn (n : Node) : Prop where
  visit : ∀ s, Adds (visit n s) n.useSites
  function : ∀ s, Adds (function n s) (if n.isFunction then n.useSites else [])
  patternExpressions : ∀ s, Adds (patternExpressions n s) n.patternUses
  target : ∀ s read, Adds (target n s read) n.useSites

/-- Every node smaller than `n` is walked as `AddsOn` says. -/
def AddsBelow (n : Node) : Prop := ∀ c, sizeOf c < sizeOf n → AddsOn c

theorem AddsBelow.child {n c : Node} (ih : AddsBelow n) (hc : c ∈ n.children) : AddsOn c :=
  ih c (sizeOf_lt_of_mem_children hc)

theorem AddsBelow.below {n c : Node} (ih : AddsBelow n) (hc : c ∈ n.children) :
    AddsBelow c := fun d hd => ih d (Nat.lt_trans hd (sizeOf_lt_of_mem_children hc))

theorem visitAll_adds {ns : List Node} (h : ∀ c ∈ ns, ∀ s, Adds (visit c s) c.useSites)
    (s : Nat) : Adds (visitAll ns s) (ns.flatMap useSites) := by
  rw [visitAll]
  exact Adds.forM_attach fun c hc => h c hc s

theorem visitOption_adds {o : Option Node} (h : ∀ c ∈ o, ∀ s, Adds (visit c s) c.useSites)
    (s : Nat) : Adds (visitOption o s) (optionUseSites o) := by
  cases o with
  | none =>
    rw [visitOption, optionUseSites]
    exact Adds.pure _
  | some c =>
    rw [visitOption, optionUseSites]
    exact h c rfl s

/-- Hoisting a statement list and then walking it adds the statements' use sites. -/
theorem hoistLexical_visitAll_adds {stmts : List Node}
    (h : ∀ c ∈ stmts, ∀ s, Adds (visit c s) c.useSites) (s : Nat) :
    Adds (do hoistLexical stmts s; visitAll stmts s) (stmts.flatMap useSites) :=
  Adds.nil_bind (hoistLexical_adds stmts s) fun _ => visitAll_adds h s

theorem function_adds_step {n : Node} (ih : AddsBelow n) (parent : Nat) :
    Adds (function n parent) (if n.isFunction then n.useSites else []) := by
  rw [function.eq_def]
  cases n
  case functionDeclaration sp i ps b g a | functionExpression sp i ps b g a
      | arrowFunctionExpression sp ps b g a =>
    rw [useSites]
    refine Adds.nil_bind (addScope_adds _ _ _) fun f => ?_
    refine Adds.bind (Adds.forM_attach fun p hp => ?_) fun _ => ?_
    · -- each parameter declares its names, then walks its defaults
      exact Adds.nil_bind (Adds.forM_nil fun _ _ => declareInitialized_adds _ _ _) fun _ =>
        (ih.child (c := p) (by simp [children, hp])).patternExpressions f
    · have hb := ih.child (c := b) (by simp [children])
      have ihb := ih.below (c := b) (by simp [children])
      cases b
      case blockStatement sp' stmts =>
        -- a block body is hoisted into the function scope
        simp only [useSites, children, flatMap_attach_useSites]
        exact Adds.nil_bind (hoistVars_adds _ f) fun _ => hoistLexical_visitAll_adds
          (fun st hst => (ihb.child (by simpa [children] using hst)).visit) f
      all_goals exact hb.visit f
  all_goals exact Adds.pure _

theorem patternExpressions_adds_step {p : Node} (ih : AddsBelow p) (scope : Nat) :
    Adds (patternExpressions p scope) p.patternUses := by
  rw [patternExpressions.eq_def]
  cases p
  case assignmentPattern sp l r =>
    rw [patternUses]
    exact Adds.bind ((ih.child (c := l) (by simp [children])).patternExpressions scope)
      fun _ => (ih.child (c := r) (by simp [children])).visit scope
  case objectPattern sp props =>
    rw [patternUses]
    refine Adds.forM_attach fun q hq => ?_
    have hqc : q ∈ (objectPattern sp props).children := by simpa [children] using hq
    have ihq := ih.below hqc
    cases q
    case property sp' k v kind computed method shorthand =>
      -- a property walks its computed key and its value's pattern
      have hv := (ihq.child (c := v) (by simp [children])).patternExpressions scope
      cases computed
      · exact hv
      · exact Adds.bind ((ihq.child (c := k) (by simp [children])).visit scope) fun _ => hv
    all_goals exact (ih.child hqc).patternExpressions scope
  case arrayPattern sp es =>
    rw [patternUses]
    refine Adds.forM_attach fun o ho => ?_
    cases o with
    | none => exact Adds.pure _
    | some e => exact (ih.child (c := e) (by simpa [children] using ho)).patternExpressions scope
  case restElement sp a =>
    rw [patternUses]
    exact (ih.child (c := a) (by simp [children])).patternExpressions scope
  all_goals
    simp only [patternUses]
    exact Adds.pure _

theorem target_adds_step {t : Node} (ih : AddsBelow t) (hv : ∀ s, Adds (visit t s) t.useSites)
    (scope : Nat) (read : Bool) : Adds (target t scope read) t.useSites := by
  rw [target.eq_def]
  cases t
  case identifier sp name =>
    rw [useSites]
    exact Adds.bind_nil (addReference_adds _ _ _ _) fun _ => Adds.pure _
  case assignmentPattern sp l r =>
    simp only [useSites, children, flatMap_attach_useSites]
    simp only [List.flatMap_cons, List.flatMap_nil, List.append_nil]
    exact Adds.bind ((ih.child (c := l) (by simp [children])).target scope read)
      fun _ => (ih.child (c := r) (by simp [children])).visit scope
  case objectPattern sp props =>
    simp only [useSites, children, flatMap_attach_useSites]
    refine Adds.forM_attach fun q hq => ?_
    have hqc : q ∈ (objectPattern sp props).children := by simpa [children] using hq
    have ihq := ih.below hqc
    cases q
    case property sp' k v kind computed method shorthand =>
      rw [useSites]
      have hv' := (ihq.child (c := v) (by simp [children])).target scope read
      cases computed
      · exact hv'
      · exact Adds.bind ((ihq.child (c := k) (by simp [children])).visit scope) fun _ => hv'
    all_goals exact (ih.child hqc).target scope read
  case arrayPattern sp es =>
    rw [useSites_arrayPattern]
    refine Adds.forM_attach fun o ho => ?_
    cases o with
    | none => exact Adds.pure _
    | some e => exact (ih.child (c := e) (by simpa [children] using ho)).target scope read
  case restElement sp a =>
    simp only [useSites, children, flatMap_attach_useSites]
    simp only [List.flatMap_cons, List.flatMap_nil, List.append_nil]
    exact (ih.child (c := a) (by simp [children])).target scope read
  all_goals exact hv scope

/-! ### The nodes that declare names or open scopes

One lemma for each such node; the step lemma after them takes the other nodes
case by case. -/

theorem variableDeclaration_adds {sp : Span} {ds : List Node} {kind : DeclarationKind}
    (ih : AddsBelow (variableDeclaration sp ds kind)) (scope : Nat) :
    Adds (visit (variableDeclaration sp ds kind) scope)
      (variableDeclaration sp ds kind).useSites := by
  rw [visit.eq_def, useSites]
  refine Adds.forM_attach fun d hd => ?_
  have hdc : d ∈ (variableDeclaration sp ds kind).children := hd
  have ihd := ih.below hdc
  cases d
  case variableDeclarator sp' t init =>
    -- each declarator declares its names, walks its pattern, then its value
    have hdecl : Adds ((patternIdentifiers t).forM _) [] :=
      Adds.forM_nil fun ident _ =>
        declareUnlessDeclared_adds scope ident (kind.binding)
    have hpe := (ihd.child (c := t) (by simp [children])).patternExpressions scope
    cases init with
    | none => exact Adds.nil_bind hdecl fun _ => Adds.bind_nil hpe fun _ => Adds.pure _
    | some v =>
      exact Adds.nil_bind hdecl fun _ => Adds.bind hpe fun _ =>
        Adds.nil_bind (markInitialized_adds t) fun _ =>
          (ihd.child (c := v) (by simp [children])).visit scope
  all_goals exact Adds.pure _

theorem classDeclaration_adds {sp : Span} {ident : Option Node} {sc : Option Node}
    {body : Node} (ih : AddsBelow (classDeclaration sp ident sc body)) (scope : Nat) :
    Adds (visit (classDeclaration sp ident sc body) scope)
      (classDeclaration sp ident sc body).useSites := by
  have hchild : ∀ c ∈ (classDeclaration sp ident sc body).children, AddsOn c :=
    fun c hc => ih.child hc
  rw [visit.eq_def, useSites]
  have hrest : Adds (do
      visitOption sc scope
      let c ← addScope .classBody (classDeclaration sp ident sc body) (some scope)
      visit body c) (optionUseSites sc ++ body.useSites) :=
    Adds.bind (visitOption_adds (fun c hc =>
        (hchild c (by simp [children, Option.mem_def.1 hc])).visit) scope)
      fun _ => Adds.nil_bind (addScope_adds _ _ _) fun c =>
        (hchild body (by simp [children])).visit c
  cases ident with
  | none => exact hrest
  | some i =>
    refine Adds.get_bind fun a => ?_
    split
    · exact Adds.nil_bind (declare_adds _ _ _) fun _ => hrest
    · exact hrest

theorem classExpression_adds {sp : Span} {ident : Option Node} {sc : Option Node}
    {body : Node} (ih : AddsBelow (classExpression sp ident sc body)) (scope : Nat) :
    Adds (visit (classExpression sp ident sc body) scope)
      (classExpression sp ident sc body).useSites := by
  have hchild : ∀ c ∈ (classExpression sp ident sc body).children, AddsOn c :=
    fun c hc => ih.child hc
  rw [visit.eq_def, useSites]
  have hbody := (hchild body (by simp [children])).visit
  have hsc := visitOption_adds (o := sc)
    (fun c hc => (hchild c (by simp [children, Option.mem_def.1 hc])).visit) scope
  cases ident with
  | none => exact Adds.bind hsc fun _ => Adds.nil_bind (addScope_adds _ _ _) hbody
  | some i =>
    exact Adds.bind hsc fun _ => Adds.nil_bind (addScope_adds _ _ _) fun c =>
      Adds.nil_bind (declare_adds _ _ _) fun _ => hbody c

theorem catchClause_adds {sp : Span} {param : Option Node} {body : Node}
    (ih : AddsBelow (catchClause sp param body)) (scope : Nat) :
    Adds (visit (catchClause sp param body) scope) (catchClause sp param body).useSites := by
  have hchild : ∀ c ∈ (catchClause sp param body).children, AddsOn c := fun c hc => ih.child hc
  rw [visit.eq_def]
  have hbody := (hchild body (by simp [children])).visit
  cases param with
  | none =>
    rw [useSites]
    exact Adds.nil_bind (addScope_adds _ _ _) hbody
  | some p =>
    rw [useSites]
    exact Adds.nil_bind (addScope_adds _ _ _) fun c =>
      Adds.nil_bind (Adds.forM_nil fun _ _ => declareInitialized_adds _ _ _) fun _ =>
        Adds.bind ((hchild p (by simp [children])).patternExpressions c) fun _ => hbody c

theorem exportNamedDeclaration_adds {sp : Span} {decl : Option Node} {specs : List Node}
    {src : Option Node} (ih : AddsBelow (exportNamedDeclaration sp decl specs src)) (scope : Nat) :
    Adds (visit (exportNamedDeclaration sp decl specs src) scope)
      (exportNamedDeclaration sp decl specs src).useSites := by
  have hchild : ∀ c ∈ (exportNamedDeclaration sp decl specs src).children, AddsOn c :=
    fun c hc => ih.child hc
  rw [visit.eq_def]
  cases decl with
  | some d =>
    rw [useSites]
    exact Adds.bind_nil ((hchild d (by simp [children])).visit scope) fun _ => markExported_adds d
  | none =>
    rw [useSites]
    cases src with
    | some _ => exact Adds.pure _
    | none =>
      -- each local name exported is a reference, and its binding is marked exported
      refine Adds.forM fun spec _ => ?_
      cases spec
      case exportSpecifier sp' l e =>
        refine Adds.bind_nil (addReference_adds _ _ _ _) fun key => ?_
        cases key with
        | none => exact Adds.pure _
        | some key => exact updateBinding_adds _ fun _ => rfl
      all_goals exact Adds.pure _

theorem switchStatement_adds {sp : Span} {disc : Node} {cases : List Node}
    (ih : AddsBelow (switchStatement sp disc cases)) (scope : Nat) :
    Adds (visit (switchStatement sp disc cases) scope)
      (switchStatement sp disc cases).useSites := by
  have hchild : ∀ c ∈ (switchStatement sp disc cases).children, AddsOn c := fun c hc => ih.child hc
  rw [visit.eq_def, useSites]
  refine Adds.bind ((hchild disc (by simp [children])).visit scope) fun _ => ?_
  refine Adds.nil_bind (addScope_adds _ _ _) fun s => ?_
  refine Adds.nil_bind (Adds.forM_nil fun c _ => ?_) fun _ => ?_
  · -- the cases' declarations are hoisted into the switch's scope
    split
    · exact hoistLexical_adds _ s
    · exact Adds.pure _
  · refine Adds.forM_attach fun c hc => ?_
    have hcc : c ∈ (switchStatement sp disc cases).children := by simp [children, hc]
    have ihc := ih.below hcc
    cases c
    case switchCase sp' test cons =>
      exact Adds.bind (visitOption_adds (o := test) (fun t ht =>
          (ihc.child (c := t) (by simp [children, Option.mem_def.1 ht])).visit) s)
        fun _ => visitAll_adds
          (fun st hst => (ihc.child (c := st) (by simp [children, hst])).visit) s
    all_goals exact Adds.pure _

theorem forStatement_adds {sp : Span} {init : Option Node} {test : Option Node}
    {update : Option Node} {body : Node} (ih : AddsBelow (forStatement sp init test update body))
    (scope : Nat) :
    Adds (visit (forStatement sp init test update body) scope)
      (forStatement sp init test update body).useSites := by
  have hchild : ∀ c ∈ (forStatement sp init test update body).children, AddsOn c :=
    fun c hc => ih.child hc
  rw [visit.eq_def]
  have hopt : ∀ o : Option Node, (∀ c ∈ o, c ∈ (forStatement sp init test update body).children) →
      ∀ s, Adds (visitOption o s) (optionUseSites o) := fun o ho =>
    visitOption_adds fun c hc => (hchild c (ho c hc)).visit
  have htail : ∀ s, Adds
      (do visitOption init s; visitOption test s; visitOption update s; visit body s)
      (forStatement sp init test update body).useSites := by
    intro s
    simp only [useSites, children, flatMap_attach_useSites]
    refine (Adds.bind (hopt init (fun c hc => by simp [children, Option.mem_def.1 hc]) s)
      fun _ => Adds.bind (hopt test (fun c hc => by simp [children, Option.mem_def.1 hc]) s)
      fun _ => Adds.bind (hopt update (fun c hc => by simp [children, Option.mem_def.1 hc]) s)
      fun _ => (hchild body (by simp [children])).visit s).congr ?_
    simp
  -- the head opens a scope of its own for a lexical declaration
  dsimp only
  split
  · split
    · exact Adds.nil_bind (addScope_adds _ _ _) fun s =>
        Adds.nil_bind (hoistLexical_adds _ s) fun _ => Adds.nil_bind (Adds.pure s) htail
    · exact Adds.nil_bind (Adds.pure _) htail
  · exact Adds.nil_bind (Adds.pure _) htail

/-- A `for-in` and a `for-of` loop are walked alike. -/
theorem forInOf_adds {sp : Span} {l r b loop : Node}
    (hloop : loop = forInStatement sp l r b ∨ loop = forOfStatement sp l r b) (ih : AddsBelow loop)
    (scope : Nat) :
    Adds (visit loop scope) loop.useSites := by
  have hchild : ∀ c ∈ loop.children, AddsOn c := fun c hc => ih.child hc
  rcases hloop with rfl | rfl
  all_goals
    rw [visit.eq_def, useSites, List.append_assoc]
    refine Adds.bind ((hchild r (by simp [children])).visit scope) fun _ => ?_
    have hl := hchild l (by simp [children])
    have ihl := ih.below (c := l) (by simp [children])
    have hb := (hchild b (by simp [children])).visit
    cases l
    case variableDeclaration sp' ds kind =>
      rw [loopHeadUses]
      dsimp only
      split
      refine Adds.nil_bind (addScope_adds _ _ _) fun s => Adds.nil_bind (hoistLexical_adds _ s)
        fun _ => Adds.nil_bind (Adds.pure s) fun s => Adds.bind ?_ fun _ => hb s
      rotate_left
      refine Adds.nil_bind (Adds.pure scope) fun s => Adds.bind ?_ fun _ => hb s
      -- either way, each declarator's names are given their values and its pattern's
      -- expressions are walked
      all_goals
        refine Adds.forM_attach fun d hd => ?_
        have hdc : d ∈ (variableDeclaration sp' ds kind).children := hd
        cases d
        case variableDeclarator sp'' t init =>
          exact Adds.nil_bind (markInitialized_adds t) fun _ =>
            ((ihl.below hdc).child (c := t) (by simp [children])).patternExpressions _
        all_goals exact Adds.pure _
    all_goals
      simp only [loopHeadUses]
      exact Adds.bind (hl.target scope false) fun _ => hb scope

theorem visit_adds_step {n : Node} (ih : AddsBelow n)
    (hf : ∀ s, Adds (function n s) (if n.isFunction then n.useSites else [])) (scope : Nat) :
    Adds (visit n scope) n.useSites := by
  have hchild : ∀ c ∈ n.children, AddsOn c := fun c hc => ih.child hc
  cases n
  case variableDeclaration => exact variableDeclaration_adds ih scope
  case classDeclaration => exact classDeclaration_adds ih scope
  case classExpression => exact classExpression_adds ih scope
  case catchClause => exact catchClause_adds ih scope
  case exportNamedDeclaration => exact exportNamedDeclaration_adds ih scope
  case switchStatement => exact switchStatement_adds ih scope
  case forStatement => exact forStatement_adds ih scope
  case forInStatement => exact forInOf_adds (.inl rfl) ih scope
  case forOfStatement => exact forInOf_adds (.inr rfl) ih scope
  all_goals rw [visit.eq_def]
  case program sp body st =>
    simp only [useSites, children, flatMap_attach_useSites]
    refine Adds.nil_bind (addScope_adds _ _ _) fun m => ?_
    exact Adds.nil_bind (hoistVars_adds _ m) fun _ =>
      hoistLexical_visitAll_adds (fun st hst => (hchild st (by simpa [children] using hst)).visit) m
  case identifier sp name =>
    rw [useSites]
    exact Adds.bind_nil (addReference_adds _ _ _ _) fun _ => Adds.pure _
  case functionDeclaration sp ident ps b g a =>
    cases ident with
    | none => exact hf scope
    | some i =>
      refine Adds.get_bind fun a => ?_
      split
      · exact Adds.nil_bind (declare_adds _ _ _) fun _ => hf scope
      · exact hf scope
  case functionExpression sp ident ps b g a =>
    cases ident with
    | none => exact hf scope
    | some i =>
      exact Adds.nil_bind (addScope_adds _ _ _) fun m =>
        Adds.nil_bind (declare_adds _ _ _) fun _ => hf m
  case arrowFunctionExpression => exact hf scope
  case blockStatement sp body =>
    simp only [useSites, children, flatMap_attach_useSites]
    exact Adds.nil_bind (addScope_adds _ _ _) fun m =>
      hoistLexical_visitAll_adds (fun st hst => (hchild st (by simpa [children] using hst)).visit) m
  case staticBlock sp body =>
    simp only [useSites, children, flatMap_attach_useSites]
    refine Adds.nil_bind (addScope_adds _ _ _) fun m => ?_
    exact Adds.nil_bind (hoistVars_adds _ m) fun _ =>
      hoistLexical_visitAll_adds (fun st hst => (hchild st (by simpa [children] using hst)).visit) m
  case assignmentExpression sp op l r =>
    simp only [useSites, children, flatMap_attach_useSites]
    simp only [List.flatMap_cons, List.flatMap_nil, List.append_nil]
    exact Adds.bind ((hchild l (by simp [children])).target scope _) fun _ =>
      (hchild r (by simp [children])).visit scope
  case memberExpression sp o p computed opt =>
    rw [useSites]
    refine Adds.bind ((hchild o (by simp [children])).visit scope) fun _ => ?_
    cases computed
    · exact Adds.pure _
    · exact (hchild p (by simp [children])).visit scope
  case property sp k v kind computed method shorthand =>
    rw [useSites]
    have hv := (hchild v (by simp [children])).visit scope
    cases computed
    · exact hv
    · exact Adds.bind ((hchild k (by simp [children])).visit scope) fun _ => hv
  case methodDefinition sp k computed v kind static =>
    rw [useSites]
    have hv := (hchild v (by simp [children])).visit scope
    cases computed
    · exact hv
    · exact Adds.bind ((hchild k (by simp [children])).visit scope) fun _ => hv
  case propertyDefinition sp k computed v static =>
    rw [useSites]
    have hv : Adds (visitOption v scope) (optionUseSites v) :=
      visitOption_adds (fun c hc => (hchild c (by simp [children]; exact Or.inr hc)).visit) scope
    cases computed
    · exact hv
    · exact Adds.bind ((hchild k (by simp [children])).visit scope) fun _ => hv
  case privateIdentifier | breakStatement | continueStatement | metaProperty
      | importDeclaration | exportAllDeclaration =>
    rw [useSites]
    exact Adds.pure _
  case labeledStatement sp l body =>
    rw [useSites]
    exact (hchild body (by simp [children])).visit scope
  case exportDefaultDeclaration sp d =>
    simp only [useSites, children, flatMap_attach_useSites]
    simp only [List.flatMap_cons, List.flatMap_nil, List.append_nil]
    exact Adds.bind_nil ((hchild d (by simp [children])).visit scope) fun _ => markExported_adds d
  case updateExpression sp op a pre =>
    simp only [useSites, children, flatMap_attach_useSites]
    simp only [List.flatMap_cons, List.flatMap_nil, List.append_nil]
    have hva := (hchild a (by simp [children])).visit scope
    cases a
    case identifier sp' name =>
      rw [useSites]
      exact Adds.bind_nil (addReference_adds _ _ _ _) fun _ => Adds.pure _
    all_goals exact hva
  all_goals
    simp only [useSites]
    exact Adds.forM fun c _ => (hchild c.1 c.2).visit scope

/-- All four walks of the builder keep the arena sound and add their node's use sites, on
every node. -/
theorem addsOn (n : Node) : AddsOn n := by
  have ih : AddsBelow n := fun c _ => addsOn c
  have hf := function_adds_step ih
  have hv := visit_adds_step ih hf
  exact ⟨hv, hf, patternExpressions_adds_step ih, target_adds_step ih hv⟩
termination_by sizeOf n

end ScopeBuilder

/-! ## The references of a program -/

/-- The empty arena holds no reference, so it is sound. -/
theorem Arena.sound_empty : ({} : Arena).Sound := fun r hr => by simp at hr

/-- Every reference the walk of a tree makes that resolved names a binding of its name, in a
scope on its chain that declares that name in the finished arena. -/
theorem analyzeScopes_sound (P : Node) : (analyzeScopes P).Sound :=
  ((ScopeBuilder.addsOn P).visit moduleScope {} Arena.sound_empty).1

/-- The walk of a tree makes one reference for each of its use sites, in order. -/
theorem analyzeScopes_sites (P : Node) : (analyzeScopes P).sites = P.useSites :=
  ((ScopeBuilder.addsOn P).visit moduleScope {} Arena.sound_empty).2.2

namespace Arena

/-! ## Where a reference is listed -/

theorem referenceAt_isSome_iff (a : Arena) (start : Nat) :
    (a.referenceAt start).isSome ↔ ∃ u ∈ a.sites, u.2.start.offset = start := by
  simp only [referenceAt, sites, List.find?_isSome, List.mem_reverse, beq_iff_eq, List.mem_map]
  constructor
  · rintro ⟨r, hr, hstart⟩
    exact ⟨(r.name, r.span), ⟨r, hr, rfl⟩, hstart⟩
  · rintro ⟨_, ⟨r, hr, rfl⟩, hstart⟩
    exact ⟨r, hr, hstart⟩

theorem mem_through_iff {a : Arena} {r : Reference} (hr : r ∈ a.references.toList) :
    r ∈ a.through ↔ r.binding = none := by
  simp [through, hr]

theorem mem_referencesOf_iff {a : Arena} {r : Reference} (hr : r ∈ a.references.toList)
    (key : BindingKey) : r ∈ a.referencesOf key ↔ r.binding = some key := by
  simp [referencesOf, hr]

/-- In a sound arena the binding a reference resolved to exists. -/
theorem Sound.binding?_isSome {a : Arena} (h : a.Sound) {r : Reference}
    (hr : r ∈ a.references.toList) {key : BindingKey} (hkey : r.binding = some key) :
    (a.binding? key).isSome := by
  obtain ⟨hname, -, hdecl⟩ := h r hr key hkey
  rw [← hname] at hdecl
  simp only [declares, Option.any_eq_true] at hdecl
  obtain ⟨s, hs, hany⟩ := hdecl
  simpa [binding?, hs] using hany

end Arena

/-- The references of a tree are, in order, one for each of its use sites, so an identifier has
a reference exactly when it stands at a use site.  A reference that resolved is among the
references of its binding, which exists, and is not free; one that did not is free and among
the references of no binding. -/
theorem references_eq_useSites (P : Node) :
    (analyzeScopes P).sites = P.useSites ∧
      (∀ start, ((analyzeScopes P).referenceAt start).isSome ↔
        ∃ u ∈ P.useSites, u.2.start.offset = start) ∧
      ∀ r ∈ (analyzeScopes P).references.toList,
        (r ∈ (analyzeScopes P).through ↔ r.binding = none) ∧
        ∀ key, (r ∈ (analyzeScopes P).referencesOf key ↔ r.binding = some key) ∧
          (r.binding = some key → ((analyzeScopes P).binding? key).isSome) := by
  have hsites := analyzeScopes_sites P
  refine ⟨hsites, fun start => ?_, fun r hr => ⟨Arena.mem_through_iff hr, fun key => ?_⟩⟩
  · rw [Arena.referenceAt_isSome_iff, hsites]
  · exact ⟨Arena.mem_referencesOf_iff hr key, (analyzeScopes_sound P).binding?_isSome hr⟩

/-- `const [b.c] = x;` -/
def memberLeafProgram : Node :=
  .program (.onFirstLine 0 16) [
    .variableDeclaration (.onFirstLine 0 16) [
      .variableDeclarator (.onFirstLine 6 15)
        (.arrayPattern (.onFirstLine 6 11) [some (.memberExpression (.onFirstLine 7 10)
          (.identifier (.onFirstLine 7 8) "b") (.identifier (.onFirstLine 9 10) "c") false false)])
        (some (.identifier (.onFirstLine 14 15) "x"))] .lexicalConst] false

/-- In `const [b.c] = x;` the object `b` of the member expression in the pattern is a name in
use, yet only `x` has a reference. -/
theorem memberLeaf_unreferenced :
    ((analyzeScopes memberLeafProgram).referenceAt 7).isNone = true ∧
      (analyzeScopes memberLeafProgram).sites = [("x", .onFirstLine 14 15)] := by
  decide +kernel

end ScriptGate
