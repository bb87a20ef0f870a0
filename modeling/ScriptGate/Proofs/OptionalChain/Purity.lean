import Mathlib.Data.List.Basic
import ScriptGate.Proofs.OptionalChain.Builder
import ScriptGate.Proofs.Purity.PropertyWrite

/-!
# Optional chains and the purity verdict

The checks that read a member chain read it through the chains around its links:
a forbidden path `process?.env`, a mutating call `arr?.push(x)` and a loaded module
`require?.("fs")` are found as in the plain spelling.  A check that reads the kind of
the node it is handed does not look through a chain: `delete o?.p` hands the
deletion a chain, not a member, and nothing is reported.

`Node.chainTransparent` holds when no chain stands where such a check looks.  For a
transparent program, erasing every chain (`Node.eraseChains`) changes neither its
scopes (`analyzeScopes_eraseChains`), nor the survey the walk starts from
(`Purity.survey_eraseChains`), nor the walk itself (`Purity.Survey.walk_eraseChains`),
so the analysis reports the same breaches (`analyzePurity_eraseChains`).
`chainedDelete_unreported` is a program outside that case whose verdict does change.

The walk is compared node by node: a node that is not a chain is inspected alike
(`Purity.Survey.inspect_eraseChains`) and has the erased children of its own
(`Purity.marked_eraseChains`); a chain reports nothing and walks its link in its place
(`Purity.Survey.walk_chainExpression`), which is what erasure puts there.
-/

namespace ScriptGate

/-- A monadic map over the attached elements of a list is the map over those of another list,
when the first list is the second one mapped and the two functions agree on matching
elements. -/
theorem mapM_attach_map {ε α β : Type} {g : α → α} {xs' xs : List α} (hxs : xs' = xs.map g)
    {f' : {c // c ∈ xs'} → Except ε β} {f : {c // c ∈ xs} → Except ε β}
    (h : ∀ c (hc : c ∈ xs), f' ⟨g c, hxs ▸ List.mem_map_of_mem hc⟩ = f ⟨c, hc⟩) :
    xs'.attach.mapM f' = xs.attach.mapM f := by
  subst hxs
  induction xs with
  | nil => rfl
  | cons x xs ih =>
    change (g x :: xs.map g).attach.mapM f' = _
    rw [List.attach_cons, List.attach_cons, List.mapM_cons, List.mapM_cons, List.mapM_map,
      List.mapM_map, h x List.mem_cons_self,
      @ih (f ∘ fun y => ⟨y.1, List.mem_cons_of_mem x y.2⟩)
        (f' ∘ fun y => ⟨y.1, List.mem_cons_of_mem (g x) y.2⟩) fun c hc => h c (List.mem_cons_of_mem _ hc)]

namespace Node

/-! ## Member chains -/

theorem isChain_unwrapChain (n : Node) : n.unwrapChain.isChain = false := by
  cases n
  case chainExpression sp e => rw [unwrapChain]; exact isChain_unwrapChain e
  all_goals rfl

theorem isChain_memberRoot (n : Node) : n.memberRoot.isChain = false := by
  cases n
  case chainExpression sp e => rw [memberRoot]; exact isChain_memberRoot e
  case memberExpression sp o p c opt => rw [memberRoot]; exact isChain_memberRoot o
  all_goals rfl

theorem unwrapChain_eraseChains (n : Node) :
    n.eraseChains.unwrapChain = n.unwrapChain.eraseChains := by
  cases n
  case chainExpression sp e =>
    rw [eraseChains_chainExpression, unwrapChain, unwrapChain_eraseChains e]
  all_goals rfl

/-- The root of an erased member chain is the root of the chain, erased. -/
theorem memberRoot_eraseChains (n : Node) :
    n.eraseChains.memberRoot = n.memberRoot.eraseChains := by
  cases n
  case chainExpression sp e =>
    rw [eraseChains_chainExpression, memberRoot, memberRoot_eraseChains e]
  case memberExpression sp o p c opt =>
    simp only [eraseChains, memberRoot]
    exact memberRoot_eraseChains o
  all_goals rfl

theorem chainTransparent_unwrapChain {n : Node} (h : n.chainTransparent = true) :
    n.unwrapChain.chainTransparent = true := by
  cases n
  case chainExpression sp e =>
    rw [unwrapChain]
    exact chainTransparent_unwrapChain
      (chainTransparent_of_mem_children (c := e) h (by simp [children]))
  all_goals exact h

/-- The segment a member spells is spelled alike with chains erased, also when its key is a
chain: the key's link spells nothing either way. -/
theorem segment?_eraseChains {n : Node} (h : n.chainTransparent = true) (hn : n.isChain = false) :
    n.eraseChains.segment? = n.segment? := by
  cases n
  case chainExpression => simp [isChain] at hn
  case memberExpression sp o p c opt =>
    have hp := chainTransparent_of_mem_children (c := p) h (by simp [children])
    cases hpc : p.isChain
    case true =>
      cases p
      case chainExpression sp' e =>
        rcases eraseChains_link hp with ⟨_, _, _, he⟩ | ⟨_, _, he⟩ <;>
          rw [eraseChains_chainExpression] at he <;> simp only [eraseChains, he, segment?]
      all_goals exact absurd hpc Bool.false_ne_true
    case false =>
      cases p <;> first | rfl | simp [isChain] at hpc
  all_goals rfl

/-- A member chain is read through its chains: erasing them leaves its parts. -/
theorem pathParts_eraseChains {n : Node} (h : n.chainTransparent = true) :
    n.eraseChains.pathParts = n.pathParts := by
  cases n
  case chainExpression sp e =>
    rw [eraseChains_chainExpression, pathParts,
      pathParts_eraseChains (chainTransparent_of_mem_children (c := e) h (by simp [children]))]
  case memberExpression sp o p c opt =>
    have ho := chainTransparent_of_mem_children (c := o) h (by simp [children])
    have hseg := segment?_eraseChains h rfl
    simp only [eraseChains] at hseg ⊢
    simp only [pathParts, hseg, pathParts_eraseChains ho]
  all_goals rfl
termination_by sizeOf n

theorem memberPath?_eraseChains {n : Node} (h : n.chainTransparent = true) :
    n.eraseChains.memberPath? = n.memberPath? := by
  have hr := isChain_memberRoot n
  simp only [memberPath?, pathParts_eraseChains h, memberRoot_eraseChains]
  -- the root is no chain, so erasing leaves its kind, which is all the path reads of it
  generalize n.memberRoot = r at hr ⊢
  cases n.pathParts with
  | error e => rfl
  | ok parts =>
    cases parts with
    | none => rfl
    | some parts => cases r <;> first | rfl | simp [isChain] at hr

end Node

namespace Purity

/-! ## The survey with its scopes erased

The walk asks its survey for references by position and for bindings by key, never
for the node of a scope, so a survey whose scopes hold erased nodes answers alike. -/

namespace Survey

open Node

/-- The survey with the chains of its scopes' nodes erased. -/
def eraseChains (s : Survey) : Survey := { s with arena := s.arena.eraseChains }

variable (s : Survey)

@[simp] theorem arena_eraseChains : s.eraseChains.arena = s.arena.eraseChains := rfl

@[simp] theorem allowance_eraseChains : s.eraseChains.allowance = s.allowance := rfl

@[simp] theorem loaded_eraseChains : s.eraseChains.loaded = s.loaded := rfl

@[simp] theorem referenceOf_eraseChains (n : Node) : s.eraseChains.referenceOf n = s.referenceOf n := by
  cases n <;> rfl

@[simp] theorem toParameter_eraseChains (r : Reference) :
    s.eraseChains.toParameter r = s.toParameter r := by
  simp [toParameter]

@[simp] theorem isLocal_eraseChains (p : Bool) (n : Node) : s.eraseChains.isLocal p n = s.isLocal p n := by
  simp [isLocal]

@[simp] theorem holdsModule_eraseChains (key : BindingKey) :
    s.eraseChains.holdsModule key = s.holdsModule key := by
  simp [holdsModule]

@[simp] theorem hasBoundRoot_eraseChains (n : Node) :
    s.eraseChains.hasBoundRoot n = s.hasBoundRoot n := by
  simp [hasBoundRoot]

@[simp] theorem rebinding_eraseChains (u : Bool) : s.eraseChains.rebinding u = s.rebinding u := by
  have hlocal : s.eraseChains.arena.isLocal = s.arena.isLocal := funext (Arena.isLocal_eraseChains s.arena)
  have hparameter : s.eraseChains.toParameter = s.toParameter := funext (toParameter_eraseChains s)
  funext i
  cases i <;> simp only [rebinding, referenceOf_eraseChains, hlocal, hparameter]

/-- Erasing chains leaves the reference of a node that is not a chain. -/
theorem referenceOf_eraseChains_node {n : Node} (hn : n.isChain = false) :
    s.referenceOf n.eraseChains = s.referenceOf n := by
  cases n <;> first | rfl | simp [isChain] at hn

theorem hasBoundRoot_eraseChains_node (n : Node) : s.hasBoundRoot n.eraseChains = s.hasBoundRoot n := by
  simp only [hasBoundRoot, root, memberRoot_eraseChains,
    referenceOf_eraseChains_node s (isChain_memberRoot n)]

theorem isLocal_root_eraseChains (p : Bool) (n : Node) :
    s.isLocal p n.eraseChains.root = s.isLocal p n.root := by
  simp only [isLocal, root, memberRoot_eraseChains,
    referenceOf_eraseChains_node s (isChain_memberRoot n)]

end Survey

/-! ## Each check -/

open Node

/-- An assignment or deletion target whose object is no chain is an export slot with its chains
erased exactly when it is one. -/
theorem isExportSlot_eraseChains {t : Node} (h : t.chainTransparent = true)
    (hobj : t.chainedOperand = false) : isExportSlot t.eraseChains = isExportSlot t := by
  cases t
  case memberExpression sp obj p c opt =>
    have hobj' : obj.isChain = false := by simpa [chainedOperand] using hobj
    have hpath := memberPath?_eraseChains h
    have hobjpath := memberPath?_eraseChains
      (chainTransparent_of_mem_children (c := obj) h (by simp [children]))
    cases obj <;> simp only [isExportSlot, eraseChains] at hpath hobjpath ⊢ <;>
      first | (simp only [hpath, hobjpath]; done) | (simp only [hpath]; done) | simp [isChain] at hobj'
  case chainExpression => simp [chainedOperand] at hobj
  all_goals rfl

namespace Survey

variable (s : Survey)

/-- A write through a target whose object is no chain is judged alike with chains erased. -/
theorem propertyWrite_eraseChains (depth : Nat) (node' node : Node) {t : Node}
    (hspan : node'.span = node.span)
    (h : t.chainTransparent = true) (hobj : t.chainedOperand = false) (deletes : Bool) :
    s.eraseChains.propertyWrite depth node' t.eraseChains deletes =
      s.propertyWrite depth node t deletes := by
  simp only [propertyWrite, isExportSlot_eraseChains h hobj, isLocal_eraseChains,
    isLocal_root_eraseChains, hspan]

theorem forbiddenMember_eraseChains {n : Node} (h : n.chainTransparent = true) :
    s.eraseChains.forbiddenMember n.eraseChains = s.forbiddenMember n := by
  simp only [forbiddenMember, memberPath?_eraseChains h, hasBoundRoot_eraseChains,
    hasBoundRoot_eraseChains_node, allowance_eraseChains, span_eraseChains_of_chainTransparent h]

theorem startsFresh_eraseChains {args : List Node} (h : ∀ a ∈ args, a.chainTransparent = true) :
    startsFresh (args.map Node.eraseChains) = startsFresh args := by
  cases args with
  | nil => rfl
  | cons a as =>
    have ha := h a List.mem_cons_self
    cases a
    case chainExpression sp e =>
      rcases eraseChains_link ha with ⟨_, _, _, he⟩ | ⟨_, _, he⟩ <;> simp [he, startsFresh]
    all_goals rfl

theorem mutatingCall_eraseChains {sp : Span} {callee : Node} {args : List Node} {opt : Bool}
    (h : (callExpression sp callee args opt).chainTransparent = true) :
    s.eraseChains.mutatingCall (callExpression sp callee args opt).eraseChains =
      s.mutatingCall (callExpression sp callee args opt) := by
  have hc := chainTransparent_unwrapChain (chainTransparent_of_mem_children (c := callee) h
    (by simp [children]))
  have hcn := isChain_unwrapChain callee
  have hargs : ∀ a ∈ args, a.chainTransparent = true := fun a ha =>
    chainTransparent_of_mem_children h (by simp [children, ha])
  simp only [mutatingCall, Node.eraseChains, eraseChainsList_eq_map, unwrapped, unwrapChain_eraseChains,
    startsFresh_eraseChains hargs]
  generalize callee.unwrapChain = c at hc hcn ⊢
  cases c
  case memberExpression sp' obj p computed opt' =>
    have hpath := memberPath?_eraseChains hc
    have hsegment := segment?_eraseChains hc rfl
    have hbound := hasBoundRoot_eraseChains_node s (memberExpression sp' obj p computed opt')
    simp only [Node.eraseChains] at hpath hsegment hbound ⊢
    simp only [hpath, hsegment, hbound, hasBoundRoot_eraseChains, isLocal_eraseChains,
      isLocal_root_eraseChains, allowance_eraseChains]
    rfl
  case chainExpression => simp [isChain] at hcn
  all_goals rfl

/-- A node that is not a chain reports alike with the chains of its tree erased. -/
theorem inspect_eraseChains {n : Node} (h : n.chainTransparent = true) (hn : n.isChain = false)
    (depth : Nat) (quiet spelled : Bool) :
    s.eraseChains.inspect depth quiet spelled n.eraseChains = s.inspect depth quiet spelled n := by
  have hchild := fun c (hc : c ∈ n.children) => chainTransparent_of_mem_children h hc
  have hexposes := exposesChain_eq_false h
  cases n
  case memberExpression sp o p c opt =>
    cases quiet
    · exact forbiddenMember_eraseChains s h
    · rfl
  case callExpression sp callee args opt =>
    exact congrArg (· >>= fun vs => pure (vs, false)) (mutatingCall_eraseChains s h)
  case assignmentExpression sp op l r =>
    have hl := hchild l (by simp [children])
    have hchained : l.chainedOperand = false := by simpa [exposesChain] using hexposes
    simp only [Node.eraseChains, inspect, patternIdentifiers_eraseChains l hl, rebinding_eraseChains,
      propertyWrite_eraseChains s depth (assignmentExpression sp op l.eraseChains r.eraseChains)
        (assignmentExpression sp op l r) rfl hl hchained]
    cases l
    case chainExpression => simp [chainedOperand] at hchained
    all_goals rfl
  case updateExpression sp op a pre =>
    have ha : a.isChain = false := by simpa [exposesChain] using hexposes
    simp only [Node.eraseChains, inspect, rebinding_eraseChains]
    cases a
    case chainExpression => simp [isChain] at ha
    all_goals rfl
  case unaryExpression sp op a =>
    have ha := hchild a (by simp [children])
    by_cases hop : op = "delete"
    · subst hop
      have hchained : a.chainedOperand = false := by simpa [exposesChain] using hexposes
      simp only [Node.eraseChains, inspect,
        propertyWrite_eraseChains s depth (unaryExpression sp "delete" a.eraseChains)
          (unaryExpression sp "delete" a) rfl ha hchained]
      cases a
      case chainExpression => simp [chainedOperand] at hchained
      all_goals rfl
    · -- only `delete` looks at its operand
      have hop' : (op == "delete") = false := by simpa using hop
      simp only [Node.eraseChains, inspect, hop', Bool.false_eq_true, ↓reduceIte]
      split <;> split <;> rfl
  case chainExpression => simp [isChain] at hn
  all_goals rfl

end Survey

theorem marked_eq (n : Node) : marked n = n.spelledChildren.zipIdx.map fun ((child, spelled), i) =>
    (child, (n.isMember || n.isChain) && i == 0, spelled) := by
  cases n <;> rfl

theorem isMember_eraseChains {n : Node} (hn : n.isChain = false) :
    n.eraseChains.isMember = n.isMember := by
  cases n <;> first | rfl | simp [isChain] at hn

/-- The marked children of an erased node that is not a chain are its marked children,
erased. -/
theorem marked_eraseChains {n : Node} (hn : n.isChain = false) :
    marked n.eraseChains = (marked n).map fun (c, link, spelled) => (c.eraseChains, link, spelled) := by
  rw [marked_eq, marked_eq, spelledChildren_eraseChains hn, isMember_eraseChains hn,
    isChain_eraseChains, hn]
  simp [List.zipIdx_map, Function.comp_def]


/-! ## The walk -/

namespace Survey

variable (s : Survey)

/-- A member or a call is walked alike whether or not it spells a name. -/
theorem walk_link {e : Node} (he : e.isMember = true ∨ e.isCall = true) (depth : Nat)
    (quiet spelled spelled' : Bool) : s.walk depth quiet spelled e = s.walk depth quiet spelled' e := by
  rcases he with he | he <;> cases e <;> try exact absurd he Bool.false_ne_true
  all_goals
    rw [walk.eq_def s depth quiet spelled, walk.eq_def s depth quiet spelled']
    rfl

/-- A chain reports nothing itself and walks its link in its place, spelling no name. -/
theorem walk_chainExpression (depth : Nat) (quiet spelled : Bool) (sp : Span) (e : Node) :
    s.walk depth quiet spelled (chainExpression sp e) = s.walk depth quiet false e := by
  rw [walk.eq_def s depth quiet spelled]
  simp [inspect, marked, typeName, forbiddenConstruct?, spelledChildren, children, isFunction]
  rw [List.mapM_subtype (g := fun x => s.walk depth (quiet && x.2.1) x.2.2 x.1) fun _ _ => rfl,
    List.unattach_attach]
  cases hw : s.walk depth quiet false e <;> simp [List.zipIdx_cons, hw]

/-- Erasing the chains of a transparent tree leaves its walk as it was. -/
theorem walk_eraseChains {n : Node} (h : n.chainTransparent = true) (depth : Nat)
    (quiet spelled : Bool) :
    s.eraseChains.walk depth quiet spelled n.eraseChains = s.walk depth quiet spelled n := by
  cases hn : n.isChain
  · rw [walk.eq_def s.eraseChains, walk.eq_def s, inspect_eraseChains s h hn,
      isFunction_eraseChains hn]
    congr 1
    funext ⟨own, matched⟩
    dsimp only
    congr 1
    refine mapM_attach_map (marked_eraseChains hn) fun ⟨c, link, name⟩ hc => ?_
    exact walk_eraseChains (chainTransparent_of_mem_children h (mem_children_of_mem_marked hc)) _ _ _
  · cases n
    case chainExpression sp e =>
      rw [eraseChains_chainExpression,
        walk_eraseChains (chainTransparent_of_mem_children h (by simp [children])),
        walk_link s (isMember_or_isCall_of_chain h) depth quiet spelled false, walk_chainExpression]
    all_goals exact absurd hn Bool.false_ne_true
termination_by sizeOf n
decreasing_by
  all_goals first
    | exact sizeOf_lt_of_mem_children (mem_children_of_mem_marked ‹_›)
    | (subst_vars; exact sizeOf_lt_of_mem_children (by simp [children]))

end Survey

/-! ## The verdict -/

/-- The bindings that hold loaded modules are found alike in a transparent program with its
chains erased. -/
theorem loadedModules_eraseChains (arena : Arena) {P : Node} (h : P.chainTransparent = true) :
    loadedModules arena.eraseChains P.eraseChains = loadedModules arena P := by
  unfold loadedModules
  rw [nodes_eraseChains, List.filterMap_map, List.filterMap_filter]
  refine List.filterMap_congr fun m hm => ?_
  have hmt := chainTransparent_of_mem_nodes h hm
  cases hc : m.isChain
  · simp only [Bool.not_false, ↓reduceIte, Function.comp_apply, Arena.referenceAt_eraseChains,
      Arena.declaredAt_eraseChains]
    cases m
    case variableDeclarator sp i v =>
      -- only a declarator of an identifier, valued by a call of an identifier, is read
      have hv : v.any chainsLoader = false := by
        simpa [exposesChain] using exposesChain_eq_false hmt
      have hi : i.chainTransparent = true := chainTransparent_of_mem_children hmt (by simp [children])
      have hdecl : (variableDeclarator sp i v).eraseChains =
          variableDeclarator sp i.eraseChains (eraseChainsOption v) := rfl
      rw [hdecl, eraseChainsOption_eq_map]
      cases i
      case chainExpression =>
        rcases eraseChains_link hi with ⟨_, _, _, he⟩ | ⟨_, _, he⟩ <;> rw [he]
      case identifier isp name =>
        rcases v with _ | x
        · rfl
        have hx : x.chainsLoader = false := by simpa using hv
        have hxt : x.chainTransparent = true :=
          chainTransparent_of_mem_children hmt (by simp [children])
        cases x
        case callExpression sp' callee args opt =>
          have hcallee : callee.chainTransparent = true :=
            chainTransparent_of_mem_children hxt (by simp [children])
          have hcall : (callExpression sp' callee args opt).eraseChains =
              callExpression sp' callee.eraseChains (eraseChainsList args) false := rfl
          rw [Option.map_some, hcall]
          cases callee
          case chainExpression =>
            rcases eraseChains_link hcallee with ⟨_, _, _, he⟩ | ⟨_, _, he⟩ <;> rw [he] <;> rfl
          all_goals rfl
        case chainExpression sp' e =>
          -- a chain value is read by neither side, unless it wraps a call of `require`
          rw [Option.map_some, eraseChains_chainExpression]
          have hlink := (link_of_chain hxt).1
          cases e
          case callExpression sp'' callee args opt =>
            have he : (callExpression sp'' callee args opt).chainTransparent = true :=
              chainTransparent_of_mem_children hxt (by simp [children])
            have hcallee : callee.chainTransparent = true :=
              chainTransparent_of_mem_children he (by simp [children])
            have hcall : (callExpression sp'' callee args opt).eraseChains =
                callExpression sp'' callee.eraseChains (eraseChainsList args) false := rfl
            rw [hcall]
            cases callee
            case identifier csp name =>
              have hname : name ≠ Purity.moduleLoader := by simpa [chainsLoader] using hx
              simp [eraseChains, hname]
            case chainExpression =>
              rcases eraseChains_link hcallee with ⟨_, _, _, hc⟩ | ⟨_, _, hc⟩ <;> rw [hc] <;> rfl
            all_goals rfl
          case memberExpression => rfl
          all_goals simp [isMember, isCall] at hlink
        all_goals rfl
      all_goals rfl
    case chainExpression => simp [isChain] at hc
    all_goals rfl
  · cases m <;> first | rfl | simp [isChain] at hc

/-- The survey of a transparent program with its chains erased is its survey, erased. -/
theorem survey_eraseChains (allowance : Allowance) {P : Node} (h : P.chainTransparent = true) :
    survey allowance P.eraseChains = (survey allowance P).eraseChains := by
  simp only [survey, analyzeScopes_eraseChains h, loadedModules_eraseChains _ h]
  rfl

end Purity

/-- Erasing the optional chains of a program in which no check reads the kind of a chain
leaves its breaches of purity as they were. -/
theorem analyzePurity_eraseChains (allowance : Purity.Allowance) {P : Node}
    (h : P.chainTransparent = true) :
    analyzePurity allowance P.eraseChains = analyzePurity allowance P := by
  unfold analyzePurity
  rw [Purity.survey_eraseChains allowance h, Purity.Survey.walk_eraseChains _ h]

/-- `x = o?.f(1);` -/
def chainedCallProgram : Node :=
  .program (.onFirstLine 0 13) [.expressionStatement (.onFirstLine 0 13)
    (.assignmentExpression (.onFirstLine 0 12) "=" (.identifier (.onFirstLine 0 1) "x")
      (.chainExpression (.onFirstLine 4 12)
        (.callExpression (.onFirstLine 4 12)
          (.memberExpression (.onFirstLine 4 8) (.identifier (.onFirstLine 4 5) "o")
            (.identifier (.onFirstLine 7 8) "f") false true)
          [.literal (.onFirstLine 9 10) (.int 1) "1" none none] false)))] false

theorem chainedCall_eraseChains :
    chainedCallProgram.chainTransparent = true ∧
      analyzePurity {} chainedCallProgram.eraseChains = analyzePurity {} chainedCallProgram :=
  ⟨by decide +kernel, analyzePurity_eraseChains {} (by decide +kernel)⟩

/-- `o.p`, the operand of `delete o?.p;` with its chain erased. -/
def plainMember : Node :=
  .memberExpression (.onFirstLine 7 11) (.identifier (.onFirstLine 7 8) "o")
    (.identifier (.onFirstLine 10 11) "p") false false

/-- `delete o?.p;` -/
def chainedDeleteProgram : Node :=
  .program (.onFirstLine 0 12) [.expressionStatement (.onFirstLine 0 12)
    (.unaryExpression (.onFirstLine 0 11) "delete"
      (.chainExpression (.onFirstLine 7 11)
        (.memberExpression (.onFirstLine 7 11) (.identifier (.onFirstLine 7 8) "o")
          (.identifier (.onFirstLine 10 11) "p") false true)))] false

/-- The deletion of a property of the free `o` is reported once its optional chain is erased,
and not before. -/
theorem chainedDelete_unreported :
    (∃ v ∈ analyzePurity {} chainedDeleteProgram.eraseChains,
        v.kind = .mutation ∧ v.pattern = "property deletion") ∧
      ∀ v ∈ analyzePurity {} chainedDeleteProgram, v.pattern ≠ "property deletion" := by
  constructor
  · -- with the chain erased, `delete o.p` deletes a member of the free `o`
    have hA : (.unaryExpression (.onFirstLine 0 11) "delete" plainMember, 0) ∈
        chainedDeleteProgram.eraseChains.nodesAt 0 :=
      Node.mem_nodesAt_of_mem_children List.mem_cons_self <|
        Node.mem_nodesAt_of_mem_children List.mem_cons_self <| Node.self_mem_nodesAt _ _
    have hslot : Purity.isExportSlot plainMember = .ok false := rfl
    have hok : ((Purity.survey {} chainedDeleteProgram.eraseChains).walk 0 false false
        chainedDeleteProgram.eraseChains).toBool = true := by
      decide +kernel
    obtain ⟨vs, hwalk⟩ := exists_eq_ok_of_toBool hok
    obtain ⟨quiet, spelled, own, matched, hinspect, hinfix⟩ :=
      report_infix_analyzePurity hwalk hA
    obtain ⟨ws, hws, h⟩ := except_bind_eq_ok.1 hinspect
    obtain ⟨rfl, -⟩ := Prod.mk.inj (except_pure_eq_ok.1 h)
    obtain ⟨v, hv⟩ := List.exists_mem_of_ne_nil _ <|
      Purity.Survey.propertyWrite_ne_nil hws (fun _ => by rw [hslot]; simp) (by decide +kernel)
    obtain ⟨hkind, hpattern, -⟩ := Purity.Survey.mem_propertyWrite hws hv
    exact ⟨v, List.IsInfix.subset hinfix hv, hkind, hpattern⟩
  · -- before, the deletion's operand is a chain, and no node deletes a member
    intro v hv hpattern
    rcases mem_analyzePurity hv with
      ⟨f, -, rfl⟩ | ⟨A, dA, hA, quiet, spelled, own, matched, hinspect, hvown⟩
    · simp [Purity.failure] at hpattern
    · have hnone :
          (chainedDeleteProgram.nodesAt 0).all (fun p => !p.1.writesMember true) = true := by
        decide +kernel
      have hA' := List.all_eq_true.1 hnone _ hA
      simp [(Purity.Survey.writesMember_of_propertyWrite true hinspect hvown
        hpattern).1] at hA'

end ScriptGate
