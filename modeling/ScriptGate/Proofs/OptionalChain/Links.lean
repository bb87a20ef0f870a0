import ScriptGate.Proofs.Syntax.Reading
import ScriptGate.Proofs.OptionalChain.Erase
import Mathlib.Algebra.GroupWithZero.Nat

/-!
# How a chain of links is read and closed

After a primary expression the grammar reads its links (`Grammar.links`): a
member by name (`.b`, `?.b`) or by index (`[i]`, `?.[i]`), a call (`(…)`,
`?.(…)`), a tagged template.  Each link is built on the one before it, and the
grammar keeps them as a `Chain`.  The node of each link is made from the chain
as a tree converter makes it.  It looks down through the links the link is
built on for a `?.` (`Chain.isOptional`).  It is told by the link above whether
it continues the chain (`Chain.toNode`).

* A link that continues the chain is built bare, so no chain node stands
  between two links (`Chain.chainCount_toNode_true`).
* The end of the chain is wrapped in one chain node when it holds `?.` and its
  outermost link is a member or a call (`Chain.toNode_false`,
  `Chain.chainCount_toNode_false`).

Whatever `links` returns is such a chain, ended (`links_closes_chain`).  So an
optional chain gets exactly one chain node, around its outermost link, and a
chain without `?.` gets none.  But a chain whose outermost link is a tagged
template gets no chain node, though a link of it is optional
(`optionalTaggedTemplate_unwrapped`).

The proof reads the results of readers through `Reader.Yields`, a property that
every result of a reader has from any context and cursor.  It goes through
binds, and a failing reader yields anything, so the readers a link calls for
its parts (names, arguments, indices, templates) are passed over unread.
-/

namespace ScriptGate

namespace Reader

/-! ## What a reader returns -/

/-- Every result that `x` returns, from any context and cursor, satisfies `P`. -/
def Yields {α : Type} (x : Reader α) (P : α → Prop) : Prop :=
  ∀ ctx c a c', x ctx c = .ok (a, c') → P a

section Yields

variable {α β : Type} {P : β → Prop}

theorem Yields.bind {x : Reader α} {f : α → Reader β} {Q : α → Prop}
    (hx : Yields x Q) (hf : ∀ a, Q a → Yields (f a) P) : Yields (x >>= f) P := by
  intro ctx c b c' h
  -- the reader, state and error layers run `x` first, then `f` on what it returns
  have hrun : (x >>= f) ctx c = (x ctx c >>= fun p => f p.1 ctx p.2) := rfl
  rw [hrun] at h
  cases hxr : x ctx c with
  | error e => rw [hxr] at h; cases h
  | ok p =>
    rw [hxr] at h
    exact hf p.1 (hx ctx c p.1 p.2 hxr) ctx p.2 b c' h

theorem Yields.pure {b : β} (h : P b) : Yields (Pure.pure b) P := by
  intro ctx c b' c' hb
  cases hb
  exact h

theorem Yields.any {x : Reader β} (h : ∀ b, P b) : Yields x P :=
  fun _ _ b _ _ => h b

/-- What a reader returns is passed to the next one unread. -/
theorem Yields.bind_any {x : Reader α} {f : α → Reader β} (hf : ∀ a, Yields (f a) P) :
    Yields (x >>= f) P :=
  Yields.bind (Yields.any fun _ => trivial : Yields x fun _ => True) fun a _ => hf a

theorem failLacking_yields {t : Token} {g : Gap} {l : Option String} :
    Yields (failLacking t g l) P := by
  intro _ _ _ _ h
  cases h

theorem failLacking_bind_yields {t : Token} {g : Gap} {l : Option String} {f : α → Reader β} :
    Yields (failLacking t g l >>= f) P :=
  Yields.bind (failLacking_yields : Yields (failLacking t g l) fun _ => False) fun _ hf => hf.elim

theorem tooDeep_yields : Yields (tooDeep : Reader β) P :=
  Yields.bind_any fun _ => failLacking_yields

end Yields

end Reader

open Reader

/-! ## The nodes of a chain -/

namespace Chain

/-- The operand a chain is built on. -/
def root : Chain → Node
  | base n => n
  | member _ o .. => o.root
  | call _ f .. => f.root
  | tagged _ f _ => f.root

/-- The nodes a chain holds that are not links of it: the operand it is built on, then the
property, the arguments or the template of each link, innermost first. -/
def parts : Chain → List Node
  | base n => [n]
  | member _ o p .. => o.parts ++ [p]
  | call _ f args _ => f.parts ++ args
  | tagged _ f q => f.parts ++ [q]

/-- Whether the outermost link is a tagged template. -/
def isTagged : Chain → Bool
  | tagged .. => true
  | _ => false

/-- A chain ends in a chain node exactly when it holds `?.` and its outermost link is not
a tagged template. -/
theorem closes_eq (c : Chain) : c.closes = (c.isOptional && !c.isTagged) := by
  cases c <;> simp [closes, isTagged, isOptional]

/-- Only the end of a chain can be wrapped: the node of a link that continues is the
node of the link itself. -/
theorem toNode_false (c : Chain) :
    c.toNode false =
      if c.closes then .chainExpression (c.toNode true).span (c.toNode true) else c.toNode true := by
  cases c with
  | base n => rfl
  | member sp o p computed opt =>
    by_cases h : (member sp o p computed opt).isOptional <;> simp [toNode, close, closes, h]
  | call sp f args opt =>
    by_cases h : (call sp f args opt).isOptional <;> simp [toNode, close, closes, h]
  | tagged sp f q => rfl

end Chain

namespace Node

/-- The chain nodes of a tree. -/
def chainCount (n : Node) : Nat := n.nodes.countP isChain

theorem chainCount_eq (n : Node) :
    n.chainCount = (if n.isChain then 1 else 0) + (n.children.map chainCount).sum := by
  have hchildren : n.children.map chainCount = n.children.map fun c => c.nodes.countP isChain :=
    rfl
  rw [hchildren, chainCount, nodes_eq, List.countP_cons, List.countP_flatMap]
  simp only [Function.comp_def]
  omega

theorem chainCount_of_isChain_eq_false {n : Node} (h : n.isChain = false) :
    n.chainCount = (n.children.map chainCount).sum := by
  rw [chainCount_eq, h]
  simp

end Node

/-- The links of a chain add no chain node to those its parts hold: each link's object,
callee or tag is the node of the link before it, which continues the chain. -/
theorem Chain.chainCount_toNode_true (c : Chain) :
    (c.toNode true).chainCount = (c.parts.map Node.chainCount).sum := by
  induction c with
  | base n => simp [Chain.toNode, Chain.parts]
  | member sp o p computed opt ih =>
    rw [show (Chain.member sp o p computed opt).toNode true =
        .memberExpression sp (o.toNode true) p computed opt from by simp [Chain.toNode, Chain.close],
      Node.chainCount_of_isChain_eq_false rfl]
    simp [Node.children, Chain.parts, ih]
  | call sp f args opt ih =>
    rw [show (Chain.call sp f args opt).toNode true = .callExpression sp (f.toNode true) args opt
        from by simp [Chain.toNode, Chain.close],
      Node.chainCount_of_isChain_eq_false rfl]
    simp [Node.children, Chain.parts, ih]
  | tagged sp f q ih =>
    rw [show (Chain.tagged sp f q).toNode true = .taggedTemplateExpression sp (f.toNode true) q
        from rfl, Node.chainCount_of_isChain_eq_false rfl]
    simp [Node.children, Chain.parts, ih]

/-- An ended chain holds one chain node more than its parts when it closes, and none more
otherwise. -/
theorem Chain.chainCount_toNode_false (c : Chain) :
    (c.toNode false).chainCount =
      (c.parts.map Node.chainCount).sum + if c.closes then 1 else 0 := by
  rw [Chain.toNode_false]
  split
  · rw [Node.chainCount_eq]
    simp [Node.isChain, Node.children, c.chainCount_toNode_true]
    omega
  · simp [c.chainCount_toNode_true]

/-! ## Reading a chain -/

/-- An operand that ends a chain built on `base`. -/
def ClosedChain (base : Node) (o : Operand) : Prop :=
  ∃ c : Chain, c.root = base ∧ o.node = c.toNode false

/-- The end of a chain: whether the operand is frozen or not, its node is the chain ended. -/
theorem finish_yields {base : Node} {o : Operand} {c : Chain} (hroot : c.root = base)
    (hnode : o.node = c.toNode true) :
    Yields (do
      let node := c.toNode false
      let frozen ← isFrozen o.stop
      if frozen then return { o with node := node, target := none, element := none }
      else if c.closes then
        return { o with node := node,
                        target := o.target.map fun _ => node,
                        element := o.element.map fun _ => node }
      else return o) (ClosedChain base) := by
  refine Yields.bind_any fun frozen => ?_
  split
  · exact Yields.pure ⟨c, hroot, rfl⟩
  · split
    · exact Yields.pure ⟨c, hroot, rfl⟩
    · rename_i hcloses
      refine Yields.pure ⟨c, hroot, ?_⟩
      rw [c.toNode_false, if_neg hcloses, hnode]

/-- Each link read extends the chain by one link, and the operand built carries its node;
the chain ends closed. -/
theorem links_yields (calls asiOk : Bool) (base : Node) (n : Nat) :
    ∀ o (c : Chain), c.root = base → o.node = c.toNode true →
      Yields (Grammar.links calls asiOk n o c) (ClosedChain base) := by
  -- on the fuel: each link read is one call of `links` on the chain it builds
  induction n with
  | zero => intro o c _ _; exact tooDeep_yields
  | succ n ih =>
    intro o c hroot hnode
    rw [Grammar.links]
    refine Yields.bind_any fun s => ?_
    split
    · exact finish_yields hroot hnode
    · refine Yields.bind_any fun gt => ?_
      dsimp only
      split
      · -- `.` and a name
        refine Yields.bind_any fun _ => Yields.bind_any fun _ => ?_
        refine Yields.bind_any fun prop => Yields.bind_any fun sp => ?_
        exact ih _ (.member sp c prop false false) hroot rfl
      · -- `?.` and a call, an index or a name
        refine Yields.bind_any fun _ => Yields.bind_any fun _ => Yields.bind_any fun u => ?_
        split
        · split
          · exact failLacking_bind_yields
          · refine Yields.bind_any fun r => Yields.bind_any fun sp => ?_
            exact ih _ (.call sp c r.1 true) hroot rfl
        · split
          · refine Yields.bind_any fun _ => Yields.bind_any fun e => ?_
            refine Yields.bind_any fun idx => Yields.bind_any fun _ => Yields.bind_any fun sp => ?_
            exact ih _ (.member sp c idx true true) hroot rfl
          · refine Yields.bind_any fun prop => Yields.bind_any fun sp => ?_
            exact ih _ (.member sp c prop false true) hroot rfl
      · -- `[`, an index
        refine Yields.bind_any fun _ => Yields.bind_any fun _ => Yields.bind_any fun e => ?_
        refine Yields.bind_any fun idx => Yields.bind_any fun _ => Yields.bind_any fun sp => ?_
        exact ih _ (.member sp c idx true false) hroot rfl
      · -- `(`, a call where calls are read, the end of the chain elsewhere
        split
        · exact finish_yields hroot hnode
        · refine Yields.bind_any fun _ => Yields.bind_any fun r => Yields.bind_any fun sp => ?_
          exact ih _ (.call sp c r.1 false) hroot rfl
      · -- a template, tagged by the chain so far
        refine Yields.bind_any fun _ => Yields.bind_any fun q => Yields.bind_any fun sp => ?_
        exact ih _ (.tagged sp c q) hroot rfl
      · exact finish_yields hroot hnode

/-- The links read after an operand `p` form a chain on `p`'s node, whose nodes are made one
link at a time: every link inside the chain is built bare, and the chain node count grows by
one, around the outermost link, exactly when a link stands after `?.` and the outermost is
not a tagged template. -/
theorem links_closes_chain {calls asiOk : Bool} {n : Nat} {p o : Operand} {ctx : Context}
    {c c' : Cursor} (h : Grammar.links calls asiOk n p (.base p.node) ctx c = .ok (o, c')) :
    ∃ ch : Chain, ch.root = p.node ∧ o.node = ch.toNode false ∧
      (ch.closes = (ch.isOptional && !ch.isTagged)) ∧
      o.node = (if ch.closes then .chainExpression (ch.toNode true).span (ch.toNode true)
        else ch.toNode true) ∧
      (ch.toNode true).chainCount = (ch.parts.map Node.chainCount).sum ∧
      o.node.chainCount = (ch.parts.map Node.chainCount).sum + if ch.closes then 1 else 0 := by
  obtain ⟨ch, hroot, hnode⟩ := links_yields calls asiOk p.node n p (.base p.node) rfl rfl ctx c o c' h
  refine ⟨ch, hroot, hnode, ch.closes_eq, ?_, ch.chainCount_toNode_true, ?_⟩
  · rw [hnode, ch.toNode_false]
  · rw [hnode, ch.chainCount_toNode_false]

/-- The text `a?.b` followed by a template `t`. -/
def taggedChainText : List Char := "a?.b`t`".toList

/-- The context of reading `taggedChainText`. -/
def taggedChainContext : Context := Context.make taggedChainText.toArray {}

/-- The name `a` at the start of `taggedChainText`. -/
def taggedChainHead : Operand := .assignable (.identifier (taggedChainContext.span 0 1) "a")

/-- After `a`, the links of `a?.b` and a template read as a chain on `a`. -/
theorem taggedChain_links_closed :
    ∃ o c', Grammar.links true false 8 taggedChainHead (.base taggedChainHead.node)
        taggedChainContext { pos := 1 } = .ok (o, c') ∧
      ∃ ch : Chain, ch.root = taggedChainHead.node ∧ o.node = ch.toNode false ∧
        (ch.closes = (ch.isOptional && !ch.isTagged)) ∧
        o.node = (if ch.closes then .chainExpression (ch.toNode true).span (ch.toNode true)
          else ch.toNode true) ∧
        (ch.toNode true).chainCount = (ch.parts.map Node.chainCount).sum ∧
        o.node.chainCount = (ch.parts.map Node.chainCount).sum + if ch.closes then 1 else 0 := by
  have hrun : (Grammar.links true false 8 taggedChainHead (.base taggedChainHead.node)
      taggedChainContext { pos := 1 }).toOption.map (fun r => r.1.node.typeName) =
      some "TaggedTemplateExpression" := by
    decide +kernel
  obtain ⟨⟨o, c'⟩, hlinks, -⟩ := exists_eq_ok_of_toOption_map hrun
  exact ⟨o, c', hlinks, links_closes_chain hlinks⟩

/-! ## A tagged template ends an optional chain bare -/

/-- Whether a node is a member or a call after `?.`. -/
def Node.optionalLink : Node → Bool
  | .memberExpression _ _ _ _ o | .callExpression _ _ _ o => o
  | _ => false

/-- `a?.b` followed by a template `t`, as a source text. -/
def taggedChainSource : GlyphText := GlyphText.ofString "a?.b`t`"

/-- A chain whose outermost link is a tagged template gets no chain node: `a?.b` and a
template read as a tagged template whose tag is the optional member `a?.b`, and nothing
in the tree is a chain. -/
theorem optionalTaggedTemplate_unwrapped :
    ∃ p f, readSource taggedChainSource .infer 1 = .ok ⟨some p, [], f⟩ ∧
      p.nodes.map Node.typeName = ["Program", "ExpressionStatement", "TaggedTemplateExpression",
        "MemberExpression", "Identifier", "Identifier", "TemplateLiteral", "TemplateElement"] ∧
      p.nodes.any Node.optionalLink = true ∧ p.nodes.any Node.isChain = false := by
  have hread : (readSource taggedChainSource .infer 1).toOption.map (fun r => (r.errors.isEmpty,
      r.program.map fun p => (p.nodes.map Node.typeName, p.nodes.any Node.optionalLink,
        p.nodes.any Node.isChain))) =
      some (true, some (["Program", "ExpressionStatement", "TaggedTemplateExpression",
        "MemberExpression", "Identifier", "Identifier", "TemplateLiteral", "TemplateElement"],
        true, false)) := by
    decide +kernel
  obtain ⟨⟨program, errors, f⟩, hr, hres⟩ := exists_eq_ok_of_toOption_map hread
  obtain ⟨herrors, hprogram⟩ := Prod.mk.inj hres
  obtain ⟨p, rfl, hp⟩ := Option.map_eq_some_iff.1 hprogram
  obtain rfl : errors = [] := List.isEmpty_iff.1 herrors
  simp only [Prod.mk.injEq] at hp
  obtain ⟨htypes, hopt, hchain⟩ := hp
  exact ⟨p, f, hr, htypes, hopt, hchain⟩

end ScriptGate
