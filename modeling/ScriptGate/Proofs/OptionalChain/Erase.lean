import ScriptGate.Proofs.Pattern
import ScriptGate.Purity.Table

/-!
# Optional chains taken out of a tree

An optional chain `a?.b.c` is a `chainExpression` around its outermost link, and
the links inside it carry `optional` where `?.` stands.  `Node.eraseChains`
takes every chain out, leaving its link in its place, and clears every
`optional` flag: what remains is the plain chain `a.b.c`.

The checks over a tree either look through chains (member paths and roots,
the callee of a call) or pass them by, so erasing chains changes nothing for
most trees.  A few handlers read their operand's kind directly, and there a
chain is not what they look for.  `Node.exposesChain` names those places:
the operand of `delete` and of `++`/`--`, an assignment's target and the object
of a member target, a declarator's value when it is a chain around a call of
`require` (the one value the module table reads), and a chain around something
other than a member or a call.  A tree none of whose nodes exposes a chain is
*chain-transparent*.
-/

namespace ScriptGate

namespace Node

/-! ## Erasing chains -/

mutual

/-- The tree with every optional chain replaced by its link, and no link optional. -/
def eraseChains : Node → Node
  | program sp b m => program sp (eraseChainsList b) m
  | expressionStatement sp e => expressionStatement sp (eraseChains e)
  | blockStatement sp b => blockStatement sp (eraseChainsList b)
  | withStatement sp o b => withStatement sp (eraseChains o) (eraseChains b)
  | returnStatement sp a => returnStatement sp (eraseChainsOption a)
  | labeledStatement sp l b => labeledStatement sp (eraseChains l) (eraseChains b)
  | breakStatement sp l => breakStatement sp (eraseChainsOption l)
  | continueStatement sp l => continueStatement sp (eraseChainsOption l)
  | ifStatement sp t c a => ifStatement sp (eraseChains t) (eraseChains c) (eraseChainsOption a)
  | switchStatement sp d cs => switchStatement sp (eraseChains d) (eraseChainsList cs)
  | switchCase sp t c => switchCase sp (eraseChainsOption t) (eraseChainsList c)
  | throwStatement sp a => throwStatement sp (eraseChains a)
  | tryStatement sp b h f =>
    tryStatement sp (eraseChains b) (eraseChainsOption h) (eraseChainsOption f)
  | catchClause sp p b => catchClause sp (eraseChainsOption p) (eraseChains b)
  | whileStatement sp t b => whileStatement sp (eraseChains t) (eraseChains b)
  | doWhileStatement sp b t => doWhileStatement sp (eraseChains b) (eraseChains t)
  | forStatement sp v t u b =>
    forStatement sp (eraseChainsOption v) (eraseChainsOption t) (eraseChainsOption u)
      (eraseChains b)
  | forInStatement sp l r b => forInStatement sp (eraseChains l) (eraseChains r) (eraseChains b)
  | forOfStatement sp l r b => forOfStatement sp (eraseChains l) (eraseChains r) (eraseChains b)
  | functionDeclaration sp i ps b g y =>
    functionDeclaration sp (eraseChainsOption i) (eraseChainsList ps) (eraseChains b) g y
  | variableDeclaration sp ds k => variableDeclaration sp (eraseChainsList ds) k
  | variableDeclarator sp i v => variableDeclarator sp (eraseChains i) (eraseChainsOption v)
  | classDeclaration sp i s b =>
    classDeclaration sp (eraseChainsOption i) (eraseChainsOption s) (eraseChains b)
  | classBody sp b => classBody sp (eraseChainsList b)
  | methodDefinition sp k cp v kd st => methodDefinition sp (eraseChains k) cp (eraseChains v) kd st
  | propertyDefinition sp k cp v st =>
    propertyDefinition sp (eraseChains k) cp (eraseChainsOption v) st
  | staticBlock sp b => staticBlock sp (eraseChainsList b)
  | importDeclaration sp ss src => importDeclaration sp (eraseChainsList ss) (eraseChains src)
  | importSpecifier sp im ln => importSpecifier sp (eraseChains im) (eraseChains ln)
  | importDefaultSpecifier sp ln => importDefaultSpecifier sp (eraseChains ln)
  | importNamespaceSpecifier sp ln => importNamespaceSpecifier sp (eraseChains ln)
  | exportNamedDeclaration sp d ss src =>
    exportNamedDeclaration sp (eraseChainsOption d) (eraseChainsList ss) (eraseChainsOption src)
  | exportSpecifier sp ln ex => exportSpecifier sp (eraseChains ln) (eraseChains ex)
  | exportDefaultDeclaration sp d => exportDefaultDeclaration sp (eraseChains d)
  | exportAllDeclaration sp src ex =>
    exportAllDeclaration sp (eraseChains src) (eraseChainsOption ex)
  | arrayExpression sp es => arrayExpression sp (eraseChainsElements es)
  | objectExpression sp ps => objectExpression sp (eraseChainsList ps)
  | property sp k v kd cp m sh => property sp (eraseChains k) (eraseChains v) kd cp m sh
  | functionExpression sp i ps b g y =>
    functionExpression sp (eraseChainsOption i) (eraseChainsList ps) (eraseChains b) g y
  | arrowFunctionExpression sp ps b e y =>
    arrowFunctionExpression sp (eraseChainsList ps) (eraseChains b) e y
  | classExpression sp i s b =>
    classExpression sp (eraseChainsOption i) (eraseChainsOption s) (eraseChains b)
  | templateLiteral sp qs es => templateLiteral sp (eraseChainsList qs) (eraseChainsList es)
  | taggedTemplateExpression sp tg q => taggedTemplateExpression sp (eraseChains tg) (eraseChains q)
  | unaryExpression sp op a => unaryExpression sp op (eraseChains a)
  | updateExpression sp op a pre => updateExpression sp op (eraseChains a) pre
  | binaryExpression sp op l r => binaryExpression sp op (eraseChains l) (eraseChains r)
  | logicalExpression sp op l r => logicalExpression sp op (eraseChains l) (eraseChains r)
  | assignmentExpression sp op l r => assignmentExpression sp op (eraseChains l) (eraseChains r)
  | conditionalExpression sp t c a =>
    conditionalExpression sp (eraseChains t) (eraseChains c) (eraseChains a)
  | callExpression sp c as _ => callExpression sp (eraseChains c) (eraseChainsList as) false
  | newExpression sp c as => newExpression sp (eraseChains c) (eraseChainsList as)
  | memberExpression sp o p cp _ => memberExpression sp (eraseChains o) (eraseChains p) cp false
  | chainExpression _ e => eraseChains e
  | sequenceExpression sp es => sequenceExpression sp (eraseChainsList es)
  | yieldExpression sp a dl => yieldExpression sp (eraseChainsOption a) dl
  | awaitExpression sp a => awaitExpression sp (eraseChains a)
  | metaProperty sp m p => metaProperty sp (eraseChains m) (eraseChains p)
  | spreadElement sp a => spreadElement sp (eraseChains a)
  | objectPattern sp ps => objectPattern sp (eraseChainsList ps)
  | arrayPattern sp es => arrayPattern sp (eraseChainsElements es)
  | restElement sp a => restElement sp (eraseChains a)
  | assignmentPattern sp l r => assignmentPattern sp (eraseChains l) (eraseChains r)
  | n => n
termination_by structural n => n

/-- `eraseChains` on each node of a list. -/
def eraseChainsList : List Node → List Node
  | [] => []
  | n :: ns => eraseChains n :: eraseChainsList ns
termination_by structural ns => ns

/-- `eraseChains` on a node that may be absent. -/
def eraseChainsOption : Option Node → Option Node
  | none => none
  | some n => some (eraseChains n)
termination_by structural o => o

/-- `eraseChains` on the elements of an array, holes kept. -/
def eraseChainsElements : List (Option Node) → List (Option Node)
  | [] => []
  | o :: os => eraseChainsOption o :: eraseChainsElements os
termination_by structural os => os

end

@[simp] theorem eraseChainsList_eq_map (ns : List Node) : eraseChainsList ns = ns.map eraseChains := by
  induction ns with
  | nil => rfl
  | cons n ns ih => simp [eraseChainsList, ih]

@[simp] theorem eraseChainsOption_eq_map (o : Option Node) :
    eraseChainsOption o = o.map eraseChains := by
  cases o <;> rfl

@[simp] theorem eraseChainsElements_eq_map (os : List (Option Node)) :
    eraseChainsElements os = os.map (Option.map eraseChains) := by
  induction os with
  | nil => rfl
  | cons o os ih => simp [eraseChainsElements, ih]

/-- Whether a node is an optional chain. -/
def isChain : Node → Bool
  | chainExpression .. => true
  | _ => false

/-- Whether a node is a call. -/
def isCall : Node → Bool
  | callExpression .. => true
  | _ => false

-- The equation lemmas of `eraseChains`, one for each kind of node, are made here once, on
-- their first use, rather than by the case analyses below that all unfold it at the same time.
attribute [local simp] eraseChains in
@[simp] theorem eraseChains_chainExpression (sp : Span) (e : Node) :
    (chainExpression sp e).eraseChains = e.eraseChains := by
  simp

/-- No chain is left at the top of an erased tree. -/
@[simp] theorem isChain_eraseChains (n : Node) : n.eraseChains.isChain = false := by
  cases n
  case chainExpression sp e =>
    rw [eraseChains_chainExpression]
    exact isChain_eraseChains e
  all_goals simp [eraseChains, isChain]
termination_by structural n

/-! ## What erasing keeps of a node that is not a chain -/

section Kept

variable {n : Node}

theorem span_eraseChains (h : n.isChain = false) : n.eraseChains.span = n.span := by
  cases n <;> first | rfl | simp [isChain] at h

theorem typeName_eraseChains (h : n.isChain = false) : n.eraseChains.typeName = n.typeName := by
  cases n <;> first | rfl | simp [isChain] at h

theorem isFunction_eraseChains (h : n.isChain = false) :
    n.eraseChains.isFunction = n.isFunction := by
  cases n <;> first | rfl | simp [isChain] at h

theorem children_eraseChains (h : n.isChain = false) :
    n.eraseChains.children = n.children.map eraseChains := by
  cases n <;> simp_all [eraseChains, children, isChain, List.filterMap_map, List.map_filterMap,
    Option.toList_map]

theorem spelledChildren_eraseChains (h : n.isChain = false) :
    n.eraseChains.spelledChildren = n.spelledChildren.map fun p => (p.1.eraseChains, p.2) := by
  cases n <;> simp_all [eraseChains, spelledChildren, children, isChain, List.filterMap_map,
    Option.toList_map, Function.comp_def,
    List.map_filterMap]

end Kept

/-! ## The nodes of an erased tree -/

theorem nodes_eq (n : Node) : n.nodes = n :: n.children.flatMap nodes := by
  rw [nodes]
  simp

theorem mem_nodes_of_mem_children {n c m : Node} (hc : c ∈ n.children) (hm : m ∈ c.nodes) :
    m ∈ n.nodes := by
  rw [nodes_eq]
  exact List.mem_cons_of_mem _ (List.mem_flatMap.2 ⟨c, hc, hm⟩)

theorem mem_nodes_trans {n m k : Node} (hm : m ∈ n.nodes) (hk : k ∈ m.nodes) : k ∈ n.nodes := by
  rw [nodes_eq] at hm
  rcases List.mem_cons.1 hm with rfl | hm
  · exact hk
  · obtain ⟨c, hc, hmc⟩ := List.mem_flatMap.1 hm
    exact mem_nodes_of_mem_children hc (mem_nodes_trans hmc hk)
termination_by sizeOf n
decreasing_by exact sizeOf_lt_of_mem_children hc

/-- The nodes of an erased tree are the erased nodes of the tree that are not chains,
in the same order. -/
theorem nodes_eraseChains (n : Node) :
    n.eraseChains.nodes = (n.nodes.filter (!·.isChain)).map eraseChains := by
  cases hn : n.isChain
  case true =>
    cases n <;> simp [isChain] at hn
    case chainExpression sp e =>
      rw [eraseChains_chainExpression, nodes_eraseChains e, nodes_eq (chainExpression sp e)]
      simp [children, isChain]
  case false =>
    have hchildren : ∀ c ∈ n.children,
        c.eraseChains.nodes = (c.nodes.filter (!·.isChain)).map eraseChains :=
      fun c _ => nodes_eraseChains c
    rw [nodes_eq, nodes_eq, children_eraseChains hn, List.flatMap_map]
    simp only [List.flatMap_def, List.map_congr_left hchildren]
    simp [hn, ← List.flatMap_def, List.filter_flatMap, List.map_flatMap]
termination_by sizeOf n
decreasing_by
  all_goals
    subst_vars
    first
    | exact sizeOf_lt_of_mem_children ‹_›
    | (simp <;> omega)

/-! ## Where a chain is in the way -/

/-- Whether a node read as a member target is a chain, or a member whose object is one. -/
def chainedOperand : Node → Bool
  | chainExpression .. => true
  | memberExpression _ o .. => o.isChain
  | _ => false

/-- Whether a node is a chain around a call of the name `require`. -/
def chainsLoader : Node → Bool
  | chainExpression _ (callExpression _ (identifier _ name) _ _) => name == Purity.moduleLoader
  | _ => false

/-- Whether a node holds a chain where a check reads the kind of node it holds: a chain
around anything but a member or a call of its own span, the operand of `delete` or of
`++`/`--`, an assignment's target, or a declarator's value that is a chain around a call
of `require`. -/
def exposesChain : Node → Bool
  | chainExpression sp e => !((e.isMember || e.isCall) && e.span == sp)
  | unaryExpression _ op a => op == "delete" && a.chainedOperand
  | updateExpression _ _ a _ => a.isChain
  | assignmentExpression _ _ l _ => l.chainedOperand
  | variableDeclarator _ _ v => v.any chainsLoader
  | _ => false

/-- Whether no node of a tree holds a chain where a check would see it. -/
def chainTransparent (n : Node) : Bool := n.nodes.all fun m => !m.exposesChain

theorem exposesChain_eq_false {n : Node} (h : n.chainTransparent = true) :
    n.exposesChain = false := by
  have := List.all_eq_true.1 h n (by rw [nodes_eq]; exact List.mem_cons_self)
  simpa using this

theorem chainTransparent_of_mem_children {n c : Node} (h : n.chainTransparent = true)
    (hc : c ∈ n.children) : c.chainTransparent = true :=
  List.all_eq_true.2 fun m hm => List.all_eq_true.1 h m (mem_nodes_of_mem_children hc hm)

theorem chainTransparent_of_mem_nodes {n m : Node} (h : n.chainTransparent = true)
    (hm : m ∈ n.nodes) : m.chainTransparent = true :=
  List.all_eq_true.2 fun k hk => List.all_eq_true.1 h k (mem_nodes_trans hm hk)

/-- A chain in a transparent tree wraps a member or a call of its own span. -/
theorem link_of_chain {sp : Span} {e : Node} (h : (chainExpression sp e).chainTransparent = true) :
    (e.isMember = true ∨ e.isCall = true) ∧ e.span = sp := by
  have := exposesChain_eq_false h
  cases hm : e.isMember <;> simp_all [exposesChain]

theorem isMember_or_isCall_of_chain {sp : Span} {e : Node}
    (h : (chainExpression sp e).chainTransparent = true) : e.isMember = true ∨ e.isCall = true :=
  (link_of_chain h).1

/-- Erasing a chain of a transparent tree leaves its link: a member or a call, of the chain's
own span and no longer optional. -/
theorem eraseChains_link {sp : Span} {e : Node} (h : (chainExpression sp e).chainTransparent = true) :
    (∃ o p c, (chainExpression sp e).eraseChains = memberExpression sp o p c false) ∨
      ∃ f args, (chainExpression sp e).eraseChains = callExpression sp f args false := by
  obtain ⟨hlink, hspan⟩ := link_of_chain h
  rw [eraseChains_chainExpression]
  rcases hlink with he | he <;> cases e <;>
    first | exact absurd he Bool.false_ne_true | simp_all [eraseChains, span]

/-- Erasing the chains of a transparent tree keeps the span of its root. -/
theorem span_eraseChains_of_chainTransparent {n : Node} (h : n.chainTransparent = true) :
    n.eraseChains.span = n.span := by
  cases n
  case chainExpression sp e =>
    rcases eraseChains_link h with ⟨_, _, _, he⟩ | ⟨_, _, he⟩ <;> rw [he] <;> rfl
  all_goals exact span_eraseChains rfl

/-- Whether a node is a property of an object literal or pattern. -/
def isProperty : Node → Bool
  | property .. => true
  | _ => false

theorem isProperty_eraseChains {q : Node} (h : q.chainTransparent = true) :
    q.eraseChains.isProperty = q.isProperty := by
  cases q
  case chainExpression sp e =>
    rcases eraseChains_link h with ⟨_, _, _, he⟩ | ⟨_, _, he⟩ <;> rw [he] <;> rfl
  all_goals rfl

theorem propertyIdentifiers_cons {q : Node} (hq : q.isProperty = false) (qs : List Node) :
    ScopeBuilder.propertyIdentifiers (q :: qs) =
      ScopeBuilder.patternIdentifiers q ++ ScopeBuilder.propertyIdentifiers qs := by
  cases q <;> simp_all [isProperty, ScopeBuilder.propertyIdentifiers]

mutual

/-- Erasing chains keeps the identifiers a pattern introduces. -/
theorem patternIdentifiers_eraseChains (p : Node) (h : p.chainTransparent = true) :
    ScopeBuilder.patternIdentifiers p.eraseChains = ScopeBuilder.patternIdentifiers p := by
  have hchild := fun c (hc : c ∈ p.children) => chainTransparent_of_mem_children h hc
  cases p
  case objectPattern props =>
    simp only [eraseChains, eraseChainsList_eq_map, ScopeBuilder.patternIdentifiers]
    exact propertyIdentifiers_eraseChains props fun q hq => hchild q (by simpa [children])
  case arrayPattern es =>
    simp only [eraseChains, eraseChainsElements_eq_map, ScopeBuilder.patternIdentifiers]
    exact elementIdentifiers_eraseChains es fun o ho q hq =>
      hchild q (List.mem_filterMap.2 ⟨o, ho, by simpa using hq⟩)
  case restElement a =>
    simp only [eraseChains, ScopeBuilder.patternIdentifiers]
    exact patternIdentifiers_eraseChains a (hchild a (by simp [children]))
  case assignmentPattern l r =>
    simp only [eraseChains, ScopeBuilder.patternIdentifiers]
    exact patternIdentifiers_eraseChains l (hchild l (by simp [children]))
  case chainExpression sp e =>
    -- the chain wraps a member or a call, which introduces nothing either
    rcases eraseChains_link h with ⟨_, _, _, he⟩ | ⟨_, _, he⟩ <;> rw [he] <;> rfl
  all_goals rfl
termination_by structural p

theorem propertyIdentifiers_eraseChains (props : List Node)
    (h : ∀ q ∈ props, q.chainTransparent = true) :
    ScopeBuilder.propertyIdentifiers (props.map eraseChains) =
      ScopeBuilder.propertyIdentifiers props := by
  cases props with
  | nil => rfl
  | cons q qs =>
    have hq := h q List.mem_cons_self
    have hqs := propertyIdentifiers_eraseChains qs fun q' hq' => h q' (List.mem_cons_of_mem _ hq')
    cases hprop : q.isProperty
    case false =>
      rw [List.map_cons, propertyIdentifiers_cons ((isProperty_eraseChains hq).trans hprop),
        propertyIdentifiers_cons hprop, patternIdentifiers_eraseChains q hq, hqs]
    case true =>
      cases q <;> simp [isProperty] at hprop
      case property k v kd cp m sh =>
        simp only [List.map_cons, eraseChains, ScopeBuilder.propertyIdentifiers]
        rw [patternIdentifiers_eraseChains v
          (chainTransparent_of_mem_children hq (by simp [children])), hqs]
termination_by structural props

theorem elementIdentifiers_eraseChains (es : List (Option Node))
    (h : ∀ o ∈ es, ∀ q ∈ o, q.chainTransparent = true) :
    ScopeBuilder.elementIdentifiers (es.map (Option.map eraseChains)) =
      ScopeBuilder.elementIdentifiers es := by
  cases es with
  | nil => rfl
  | cons o os =>
    have hos := elementIdentifiers_eraseChains os fun o' ho' => h o' (List.mem_cons_of_mem _ ho')
    cases o with
    | none => simpa [ScopeBuilder.elementIdentifiers] using hos
    | some q =>
      simp only [List.map_cons, Option.map_some, ScopeBuilder.elementIdentifiers]
      rw [patternIdentifiers_eraseChains q (h (some q) List.mem_cons_self q rfl), hos]
termination_by structural es

end

end Node

end ScriptGate
