import ScriptGate.Proofs.Purity.Rebinding

/-!
# Export wiring is exempt outside functions

A CommonJS module wires up its exports by writing to `exports.x`, `module.exports` or
`module.exports.x` (`Node.ExportSlot`).  Such a write, made at the top level, is no breach of
purity: the analysis lets it pass when the walk has no function around it.  Inside a function
the same write is a property write like any other.

The walk passes its depth down, one more below each function, and never keeps it: a node is
inspected at the number of functions among its ancestors, and a walk that runs to the end
reports the nodes' findings one for one in pre-order (`Survey.walk_reports_withAncestors`).  A
write to an export slot is therefore exempt exactly outside every function, unless its object
is local anyway (`Survey.inspect_exportSlot`, `exportWiring_exempt_outside_functions`).

The report of such a write inside a function reaches the analysis only when the walk runs to
the end: a member index too long to spell stops it, and then the fault is all that is reported
(`exportWriteInFunction_unreported`).
-/

namespace ScriptGate

namespace Node

/-- `module.exports` or `module["exports"]`. -/
inductive ModuleExports : Node → Prop
  | dot (sp msp esp : Span) (optional : Bool) :
      ModuleExports (memberExpression sp (identifier msp "module") (identifier esp "exports") false
        optional)
  | bracket (sp msp lsp : Span) (raw : String) (bigint : Option String) (optional : Bool) :
      ModuleExports (memberExpression sp (identifier msp "module")
        (literal lsp (.string "exports") raw none bigint) true optional)

/-- The slots through which a module wires up its exports: a member of `exports` (`exports.x`,
`exports[e]`), `module.exports` itself, or a name below it (`module.exports.x`). -/
inductive ExportSlot : Node → Prop
  | exportsMember (sp isp : Span) (p : Node) (computed optional : Bool) :
      ExportSlot (memberExpression sp (identifier isp "exports") p computed optional)
  | moduleExports {m : Node} (h : ModuleExports m) : ExportSlot m
  | belowModuleExports {m : Node} (h : ModuleExports m) (sp psp : Span) (name : String)
      (optional : Bool) : ExportSlot (memberExpression sp m (identifier psp name) false optional)

/-- `A` writes the member `t` as a whole: an assignment with `t` as its target, or, when
`deletes` is set, the deletion of `t`. -/
inductive WritesMember : Node → Bool → Node → Prop
  | assign (sp : Span) (op : String) (t r : Node) (ht : t.isMember = true) :
      WritesMember (assignmentExpression sp op t r) false t
  | delete (sp : Span) (t : Node) (ht : t.isMember = true) :
      WritesMember (unaryExpression sp "delete" t) true t

theorem ModuleExports.memberPath? {m : Node} (h : m.ModuleExports) :
    m.memberPath? = .ok (some Purity.exportSlot) := by
  cases h <;> rfl

theorem ModuleExports.memberPath?_below {m : Node} (h : m.ModuleExports) (sp psp : Span)
    (name : String) (optional : Bool) :
    ∃ p, (memberExpression sp m (identifier psp name) false optional).memberPath? = .ok (some p) := by
  cases h <;> exact ⟨_, rfl⟩

/-- An occurrence of a node in a tree is seen by the walk at the number of functions among its
ancestors. -/
theorem mem_nodesAt_of_mem_withAncestors {P A : Node} {above : List Node}
    (h : (A, above) ∈ P.withAncestors []) : (A, above.countP isFunction) ∈ P.nodesAt 0 := by
  have hnodes := nodesAt_eq_withAncestors [] P
  rw [List.countP_nil] at hnodes
  rw [hnodes]
  exact List.mem_map.2 ⟨(A, above), h, rfl⟩

end Node

namespace Purity

/-- Each export slot is one: the check never fails on it. -/
theorem isExportSlot_of_exportSlot {t : Node} (h : t.ExportSlot) : isExportSlot t = .ok true := by
  cases h with
  | exportsMember => rfl
  | moduleExports hm => cases hm <;> rfl
  | belowModuleExports hm sp psp name optional =>
    obtain ⟨p, hp⟩ := hm.memberPath?_below sp psp name optional
    have hobject := hm.memberPath?
    -- whether or not the whole path is the slot, the path of its object is
    cases hm <;> simp only [isExportSlot, hp, hobject, bind, Except.bind, Bool.false_eq_true,
      ↓reduceIte] <;> split <;> rfl

namespace Survey

variable {s : Survey}

/-- A write to an export slot is checked without fail, and reports nothing exactly at the top
level or on a local object. -/
theorem propertyWrite_exportSlot (depth : Nat) (node : Node) {t : Node} (deletes : Bool)
    (h : t.ExportSlot) :
    ∃ ws, s.propertyWrite depth node t deletes = .ok ws ∧
      (ws = [] ↔ depth = 0 ∨ s.isLocal true t.root = true) := by
  by_cases hdepth : depth = 0
  · subst hdepth
    refine ⟨[], ?_, iff_of_true rfl (.inl rfl)⟩
    simp only [propertyWrite, isExportSlot_of_exportSlot h]
    rfl
  · -- inside a function the slot is not looked at
    have hnz : (depth == 0) = false := by simpa using hdepth
    simp only [propertyWrite, hnz, Bool.false_eq_true, ↓reduceIte]
    refine ⟨_, rfl, ?_⟩
    split <;> (try split) <;> simp_all

/-- A node that writes a member reports what the property write reports, and quiets nothing. -/
theorem inspect_of_writesMember {deletes : Bool} {t A : Node} (hw : A.WritesMember deletes t)
    (depth : Nat) (quiet spelled : Bool) {ws : List Violation}
    (h : s.propertyWrite depth A t deletes = .ok ws) :
    s.inspect depth quiet spelled A = .ok (ws, false) := by
  cases hw with
  | assign sp op t r ht =>
    cases t
    all_goals simp only [Node.isMember, Bool.false_eq_true] at ht
    simp only [inspect, h]
    rfl
  | delete sp t ht =>
    cases t
    all_goals simp only [Node.isMember, Bool.false_eq_true] at ht
    simp only [inspect, h, beq_self_eq_true, ↓reduceIte]
    rfl

/-- A write to an export slot reports nothing exactly at the top level or on a local object;
otherwise it reports the write once, as a mutation at the node that writes. -/
theorem inspect_exportSlot {deletes : Bool} {t A : Node} (hw : A.WritesMember deletes t)
    (hslot : t.ExportSlot) (depth : Nat) :
    ∃ own, (∀ quiet spelled, s.inspect depth quiet spelled A = .ok (own, false)) ∧
      (own = [] ↔ depth = 0 ∨ s.isLocal true t.root = true) ∧ own.length ≤ 1 ∧
      ∀ v ∈ own, v.kind = .mutation ∧ v.pattern = propertyWriteLabel deletes ∧
        v.span = some A.span := by
  obtain ⟨ws, hws, hnil⟩ := propertyWrite_exportSlot depth A deletes hslot
  exact ⟨ws, fun quiet spelled => inspect_of_writesMember hw depth quiet spelled hws, hnil,
    length_propertyWrite_le hws, fun v hv => mem_propertyWrite hws hv⟩

/-- When the walk over a program runs to the end, its findings are the reports of the program's
nodes, one for one in pre-order, each inspected at the number of functions among its
ancestors. -/
theorem walk_reports_withAncestors {P : Node} {vs : List Violation}
    (hwalk : s.walk 0 false false P = .ok vs) :
    ∃ reports, List.Forall₂ (fun x own => s.Reports (x.1, x.2.countP Node.isFunction) own)
      (P.withAncestors []) reports ∧ vs = reports.flatten := by
  obtain ⟨reports, hreports, rfl⟩ := walk_reports s P 0 false false hwalk
  have hnodes := Node.nodesAt_eq_withAncestors [] P
  rw [List.countP_nil] at hnodes
  rw [hnodes, List.forall₂_map_left_iff] at hreports
  exact ⟨reports, hreports, rfl⟩

end Survey

/-- The walk of a program inspects its nodes in pre-order, each at the number of functions
among its ancestors, and when it runs to the end its findings are their reports in that order.
So a write to an export slot reports nothing outside every function; inside one it reports the
write once, as a single violation, unless its object is local, and that report stands in the
analysis when the walk runs to the end. -/
theorem exportWiring_exempt_outside_functions (allowance : Allowance) (P : Node) :
    (∀ vs, (survey allowance P).walk 0 false false P = .ok vs →
      ∃ reports, List.Forall₂
        (fun x own => (survey allowance P).Reports (x.1, x.2.countP Node.isFunction) own)
        (P.withAncestors []) reports ∧ vs = reports.flatten) ∧
    ∀ A above t deletes, (A, above) ∈ P.withAncestors [] → A.WritesMember deletes t →
      t.ExportSlot →
      ∃ own,
        (∀ quiet spelled, (survey allowance P).inspect (above.countP Node.isFunction) quiet
          spelled A = .ok (own, false)) ∧
        (own = [] ↔ above.countP Node.isFunction = 0 ∨
          (survey allowance P).isLocal true t.root = true) ∧ own.length ≤ 1 ∧
        (∀ v ∈ own, v.kind = .mutation ∧ v.pattern = propertyWriteLabel deletes ∧
          v.span = some A.span) ∧
        ((∃ vs, (survey allowance P).walk 0 false false P = .ok vs) →
          own <:+: analyzePurity allowance P) := by
  refine ⟨fun vs hwalk => Survey.walk_reports_withAncestors hwalk, ?_⟩
  intro A above t deletes hA hw hslot
  obtain ⟨own, hinspect, hnil, hlen, hown⟩ :=
    Survey.inspect_exportSlot hw hslot (above.countP Node.isFunction)
  refine ⟨own, hinspect, hnil, hlen, hown, ?_⟩
  rintro ⟨vs, hwalk⟩
  -- the write stands in the program at its depth, so its report stands in the analysis
  obtain ⟨quiet, spelled, own', matched, hinspect', hinfix⟩ :=
    report_infix_analyzePurity hwalk (Node.mem_nodesAt_of_mem_withAncestors hA)
  rw [hinspect quiet spelled] at hinspect'
  obtain ⟨rfl, -⟩ := Prod.mk.inj (Except.ok.inj hinspect')
  exact hinfix

/-- The member `exports.x` of `function f() { exports.x = 1; } o[0xf…f];`. -/
def exportsX : Node :=
  .memberExpression (.onFirstLine 15 24) (.identifier (.onFirstLine 15 22) "exports")
    (.identifier (.onFirstLine 23 24) "x") false false

/-- The write `exports.x = 1` of `function f() { exports.x = 1; } o[0xf…f];`. -/
def exportWrite : Node :=
  .assignmentExpression (.onFirstLine 15 28) "=" exportsX
    (.literal (.onFirstLine 27 28) (.int 1) "1" none none)

/-- The function of `function f() { exports.x = 1; } o[0xf…f];`. -/
def exportSetter : Node :=
  .functionDeclaration (.onFirstLine 0 31) (some (.identifier (.onFirstLine 9 10) "f")) []
    (.blockStatement (.onFirstLine 13 31) [.expressionStatement (.onFirstLine 15 29) exportWrite])
    false false

/-- `function f() { exports.x = 1; } o[0xf…f];`, whose index has 3600 digits f.  The raw text
of the index, which no analysis reads, is written shortened. -/
def exportWriteProgram : Node :=
  .program (.onFirstLine 0 3638) [exportSetter,
    .expressionStatement (.onFirstLine 32 3638)
      (.memberExpression (.onFirstLine 32 3637) (.identifier (.onFirstLine 32 33) "o")
        (.literal (.onFirstLine 34 3636) (.int ((16 ^ 3600 - 1 : Nat) : Int)) "0xf…f" none none)
        true false)] false

/-- A write to an export slot inside a function, on an object that is not local, goes
unreported when a later member has an index too long to print: the analysis stops there and
reports its fault alone. -/
theorem exportWriteInFunction_unreported :
    (∃ above, (exportWrite, above) ∈ exportWriteProgram.withAncestors [] ∧
      above.countP Node.isFunction = 1) ∧
    exportWrite.WritesMember false exportsX ∧ exportsX.ExportSlot ∧
    (survey {} exportWriteProgram).isLocal true exportsX.root = false ∧
    analyzePurity {} exportWriteProgram = [failure .longInteger] := by
  -- the walk fails at the member of the second statement
  have hfail : ∀ vs, (survey {} exportWriteProgram).walk 0 false false exportWriteProgram ≠ .ok vs :=
    Survey.walk_ne_ok_of_child (List.mem_cons_of_mem _ List.mem_cons_self) <|
      Survey.walk_ne_ok_of_child List.mem_cons_self <|
      Survey.walk_ne_ok_of_inspect <| Survey.inspect_member_eq_error <|
      Node.memberPath?_eq_error (Node.segment?_eq_error Numeral.printable_longHex)
  -- the write lies in the body of the function, one function deep
  have hA : (exportWrite, [.expressionStatement (.onFirstLine 15 29) exportWrite,
      .blockStatement (.onFirstLine 13 31) [.expressionStatement (.onFirstLine 15 29) exportWrite],
      exportSetter, exportWriteProgram]) ∈ exportWriteProgram.withAncestors [] :=
    Node.mem_withAncestors_of_mem_children List.mem_cons_self <|
      Node.mem_withAncestors_of_mem_children (List.mem_cons_of_mem _ List.mem_cons_self) <|
      Node.mem_withAncestors_of_mem_children List.mem_cons_self <|
      Node.mem_withAncestors_of_mem_children List.mem_cons_self <|
      Node.self_mem_withAncestors _ _
  exact ⟨⟨_, hA, rfl⟩, .assign _ _ _ _ rfl, .exportsMember _ _ _ _ _, by decide +kernel,
    analyzePurity_eq_failure hfail⟩

end Purity

end ScriptGate
