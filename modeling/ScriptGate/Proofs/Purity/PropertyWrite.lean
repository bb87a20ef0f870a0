import ScriptGate.Proofs.Purity.Walk

/-!
# Which writes to a property are reported

An assignment whose whole target is a member, `o.p = v`, writes a property of `o`;
outside a local object and outside the export slots it is reported as a
*property assignment* at the assignment.  An assignment whose target is a
pattern, `[o.p] = v` or `({ k: o.p } = v)`, writes the same property, but the
analysis reads such a target only for the identifiers it rebinds, and a member
is never one of those (`not_mem_patternIdentifiers_of_isMember`).

The pattern of a violation names the check that reported it.  Every check but
the property write reports under a pattern of its own table or a label of its
own, so a property assignment in the analysis always comes from an assignment
to a member, and a property deletion from the deletion of a member
(`writesMember_of_propertyWrite`).  For an assignment with a
member leaf that is not local and not an export slot at the top level, the
write is reported exactly when the member is the whole target and the analysis
runs to the end (`propertyAssignment_reported_iff`).
-/

namespace ScriptGate

namespace Node

/-- Whether a node writes to a member as a whole: deletes one when `deletes` is set, assigns
to one otherwise. -/
def writesMember (deletes : Bool) : Node → Bool
  | .assignmentExpression _ _ l _ => !deletes && l.isMember
  | .unaryExpression _ op a => deletes && op == "delete" && a.isMember
  | _ => false

end Node

namespace Purity

/-- The label under which a property write is reported. -/
def propertyWriteLabel (deletes : Bool) : String :=
  if deletes then "property deletion" else "property assignment"

theorem propertyWriteLabel_injective : Function.Injective propertyWriteLabel := by
  intro a b h
  cases a <;> cases b <;> first | rfl | exact absurd h (by decide)

/-! ## The patterns of the tables -/

/-- None of the tables of forbidden names, paths and calls holds the label of a property
write, and no node type is called that. -/
theorem propertyWrite_not_in_tables (deletes : Bool) :
    forbiddenNames.lookup (propertyWriteLabel deletes) = none ∧
    forbiddenMembers.lookup (propertyWriteLabel deletes) = none ∧
    mutatingObjectCalls.contains (propertyWriteLabel deletes) = false ∧
    mutatingArrayMethod? (propertyWriteLabel deletes) = none ∧
    forbiddenConstruct? (propertyWriteLabel deletes) = none := by
  cases deletes <;> decide

namespace Survey

variable {s : Survey}

/-! ## The patterns of each check -/

/-- A free name is reported under its own name, which the table of forbidden names holds. -/
theorem lookup_of_mem_freeName {n : Node} {v : Violation} (hv : v ∈ s.freeName n) :
    (forbiddenNames.lookup v.pattern).isSome := by
  unfold freeName at hv
  split at hv
  case h_1 name r _ =>
    split at hv
    · simp at hv
    · split at hv
      case h_1 h hlookup =>
        simp only [List.mem_singleton] at hv
        subst hv
        simp [hlookup]
      case h_2 => simp at hv
  case h_2 => simp at hv

/-- A forbidden path is reported under the pattern of the table that it matched. -/
theorem lookup_of_mem_forbiddenMember {n : Node} {own : List Violation} {matched : Bool}
    {v : Violation} (h : s.forbiddenMember n = .ok (own, matched)) (hv : v ∈ own) :
    (forbiddenMembers.lookup v.pattern).isSome := by
  unfold forbiddenMember at h
  obtain ⟨path?, -, h⟩ := except_bind_eq_ok.1 h
  rw [except_pure_eq_ok] at h
  -- each branch reports nothing, but a path of the table that is neither bound nor allowed
  repeat' split at h
  all_goals
    obtain ⟨rfl, -⟩ := Prod.mk.inj h
    simp_all

/-- A call is reported under an object call of the table or an array method of the table. -/
theorem pattern_of_mem_mutatingCall {n : Node} {ws : List Violation} {v : Violation}
    (h : s.mutatingCall n = .ok ws) (hv : v ∈ ws) :
    mutatingObjectCalls.contains v.pattern = true ∨ (mutatingArrayMethod? v.pattern).isSome := by
  unfold mutatingCall at h
  split at h
  case h_2 => obtain rfl := except_pure_eq_ok.1 h; simp at hv
  split at h
  case h_2 => obtain rfl := except_pure_eq_ok.1 h; simp at hv
  obtain ⟨path?, -, h⟩ := except_bind_eq_ok.1 h
  dsimp only at h
  split at h
  case h_1 vs hby =>
    -- the path decided: only an object call of the table is reported
    obtain rfl := except_pure_eq_ok.1 h
    repeat' split at hby
    all_goals cases hby
    all_goals simp_all
  case h_2 =>
    -- the method decided: only an array method of the table is reported
    obtain ⟨method?, -, h⟩ := except_bind_eq_ok.1 h
    obtain rfl := except_pure_eq_ok.1 h
    repeat' split at hv
    all_goals simp_all

/-- A rebinding is labelled by the variable or parameter it rebinds, never as a property
write. -/
theorem pattern_ne_of_mem_rebinding {update deletes : Bool} {ident : Node} {v : Violation}
    (hv : v ∈ s.rebinding update ident) : v.pattern ≠ propertyWriteLabel deletes := by
  unfold rebinding at hv
  split at hv
  case h_2 => simp at hv
  case h_1 sp name =>
    dsimp only at hv
    repeat' split at hv
    all_goals simp only [List.mem_singleton, List.not_mem_nil] at hv
    -- each label is spelled differently from its first letters on
    all_goals
      subst hv
      intro h
      have := congrArg String.toList h
      cases deletes <;> simp [propertyWriteLabel, String.toList_append] at this

/-- A property write reports at most one breach: a mutation at the node that writes,
labelled a deletion or an assignment. -/
theorem mem_propertyWrite {depth : Nat} {node target : Node} {deletes : Bool}
    {ws : List Violation} {v : Violation}
    (h : s.propertyWrite depth node target deletes = .ok ws) (hv : v ∈ ws) :
    v.kind = .mutation ∧ v.pattern = propertyWriteLabel deletes ∧ v.span = some node.span := by
  unfold propertyWrite at h
  simp only [bind, Except.bind, pure, Except.pure] at h
  repeat' split at h
  all_goals cases h
  all_goals simp_all [propertyWriteLabel]

/-- A write is reported once at most. -/
theorem length_propertyWrite_le {depth : Nat} {node target : Node} {deletes : Bool}
    {ws : List Violation} (h : s.propertyWrite depth node target deletes = .ok ws) :
    ws.length ≤ 1 := by
  unfold propertyWrite at h
  simp only [bind, Except.bind, pure, Except.pure] at h
  repeat' split at h
  all_goals cases h
  all_goals simp

/-- A property write outside the export slots, on an object that is not local, is reported. -/
theorem propertyWrite_ne_nil {depth : Nat} {node target : Node} {deletes : Bool}
    {ws : List Violation} (h : s.propertyWrite depth node target deletes = .ok ws)
    (hslot : depth = 0 → isExportSlot target ≠ .ok true)
    (hroot : s.isLocal true target.root = false) : ws ≠ [] := by
  unfold propertyWrite at h
  simp only [bind, Except.bind, pure, Except.pure] at h
  repeat' split at h
  all_goals cases h
  all_goals simp_all

/-! ## What a node reports -/

/-- What a node reports by itself comes from one of its checks: a free name, a forbidden
path, a mutating call, a write to a property that the node makes, the rebinding of an
identifier, the update of a property, or a construct forbidden outright. -/
theorem mem_inspect {depth : Nat} {quiet spelled : Bool} {n : Node} {own : List Violation}
    {matched : Bool} {v : Violation}
    (h : s.inspect depth quiet spelled n = .ok (own, matched)) (hv : v ∈ own) :
    v ∈ s.freeName n ∨ s.forbiddenMember n = .ok (own, matched) ∨
      (∃ ws, s.mutatingCall n = .ok ws ∧ v ∈ ws) ∨
      (∃ target deletes ws, n.writesMember deletes = true ∧
        s.propertyWrite depth n target deletes = .ok ws ∧ v ∈ ws) ∨
      (∃ update ident, v ∈ s.rebinding update ident) ∨
      v.pattern = "update expression on property" ∨
      ((forbiddenConstruct? n.typeName).isSome ∧ v.pattern = n.typeName) := by
  unfold inspect at h
  split at h
  case h_1 =>
    obtain ⟨rfl, -⟩ := Prod.mk.inj (except_pure_eq_ok.1 h)
    split at hv
    · simp at hv
    · exact .inl hv
  case h_2 =>
    split at h
    · obtain ⟨rfl, -⟩ := Prod.mk.inj (except_pure_eq_ok.1 h)
      simp at hv
    · exact .inr (.inl h)
  case h_3 =>
    obtain ⟨ws, hws, h⟩ := except_bind_eq_ok.1 h
    obtain ⟨rfl, -⟩ := Prod.mk.inj (except_pure_eq_ok.1 h)
    exact .inr (.inr (.inl ⟨ws, hws, hv⟩))
  case h_4 sp op l r =>
    split at h
    case h_1 =>
      -- the whole target is a member: the write is checked
      obtain ⟨ws, hws, h⟩ := except_bind_eq_ok.1 h
      obtain ⟨rfl, -⟩ := Prod.mk.inj (except_pure_eq_ok.1 h)
      exact .inr (.inr (.inr (.inl
        ⟨_, false, ws, by simp [Node.writesMember, Node.isMember], hws, hv⟩)))
    case h_2 =>
      -- a pattern: only the identifiers it rebinds are checked
      obtain ⟨rfl, -⟩ := Prod.mk.inj (except_pure_eq_ok.1 h)
      obtain ⟨ident, -, hv⟩ := List.mem_flatMap.1 hv
      exact .inr (.inr (.inr (.inr (.inl ⟨false, ident, hv⟩))))
  case h_5 =>
    split at h
    case h_1 =>
      obtain ⟨rfl, -⟩ := Prod.mk.inj (except_pure_eq_ok.1 h)
      exact .inr (.inr (.inr (.inr (.inl ⟨true, _, hv⟩))))
    case h_2 =>
      obtain ⟨rfl, -⟩ := Prod.mk.inj (except_pure_eq_ok.1 h)
      simp only [List.mem_singleton] at hv
      exact .inr (.inr (.inr (.inr (.inr (.inl (by rw [hv]))))))
    case h_3 =>
      obtain ⟨rfl, -⟩ := Prod.mk.inj (except_pure_eq_ok.1 h)
      simp at hv
  case h_6 =>
    split at h
    case h_1 =>
      -- a deletion is checked as a write
      split at h
      · obtain ⟨ws, hws, h⟩ := except_bind_eq_ok.1 h
        obtain ⟨rfl, -⟩ := Prod.mk.inj (except_pure_eq_ok.1 h)
        exact .inr (.inr (.inr (.inl ⟨_, true, ws, by simp_all [Node.writesMember, Node.isMember],
          hws, hv⟩)))
      · obtain ⟨rfl, -⟩ := Prod.mk.inj (except_pure_eq_ok.1 h)
        simp at hv
    case h_2 =>
      obtain ⟨rfl, -⟩ := Prod.mk.inj (except_pure_eq_ok.1 h)
      simp at hv
  case h_7 =>
    split at h
    case h_1 hconstruct =>
      obtain ⟨rfl, -⟩ := Prod.mk.inj (except_pure_eq_ok.1 h)
      simp only [List.mem_singleton] at hv
      exact .inr (.inr (.inr (.inr (.inr (.inr ⟨by simp [hconstruct], by rw [hv]⟩)))))
    case h_2 =>
      obtain ⟨rfl, -⟩ := Prod.mk.inj (except_pure_eq_ok.1 h)
      simp at hv

/-! ## Where a property write comes from -/

/-- Only an assignment to a member reports a property assignment, only the deletion of a
member reports a property deletion, and each reports it at itself. -/
theorem writesMember_of_propertyWrite (deletes : Bool) {depth : Nat} {quiet spelled : Bool}
    {n : Node} {own : List Violation} {matched : Bool} {v : Violation}
    (h : s.inspect depth quiet spelled n = .ok (own, matched)) (hv : v ∈ own)
    (hpattern : v.pattern = propertyWriteLabel deletes) :
    n.writesMember deletes = true ∧ v.kind = .mutation ∧ v.span = some n.span := by
  obtain ⟨hnames, hmembers, hcalls, hmethods, hconstructs⟩ := propertyWrite_not_in_tables deletes
  rcases mem_inspect h hv with hfree | hmember | ⟨ws, hws, hv⟩ |
    ⟨target, deletes', ws, hwrites, hws, hv⟩ | ⟨update, ident, hv⟩ | hupdate | ⟨hconstruct, hname⟩
  · have hlookup := lookup_of_mem_freeName hfree
    rw [hpattern, hnames] at hlookup
    cases hlookup
  · have hlookup := lookup_of_mem_forbiddenMember hmember hv
    rw [hpattern, hmembers] at hlookup
    cases hlookup
  · have hcall := pattern_of_mem_mutatingCall hws hv
    rw [hpattern, hcalls, hmethods] at hcall
    simp at hcall
  · -- the write is checked under its own label, so it is the write asked about
    obtain ⟨hkind, hlabel, hspan⟩ := mem_propertyWrite hws hv
    obtain rfl := propertyWriteLabel_injective (hpattern.symm.trans hlabel)
    exact ⟨hwrites, hkind, hspan⟩
  · exact absurd hpattern (pattern_ne_of_mem_rebinding hv)
  · cases deletes <;> simp_all [propertyWriteLabel]
  · rw [← hname, hpattern, hconstructs] at hconstruct
    cases hconstruct

/-- The report of an assignment does not depend on the flags of the walk. -/
theorem inspect_assignment_flags (depth : Nat) (quiet spelled : Bool) (sp : Span) (op : String)
    (l r : Node) :
    s.inspect depth quiet spelled (.assignmentExpression sp op l r) =
      s.inspect depth false false (.assignmentExpression sp op l r) := rfl

end Survey

/-! ## Assignments through a pattern -/

/-- An assignment with a member leaf that is not local, and not an export slot outside every
function, has its write reported, at the assignment and in the analysis, exactly when the
member is the whole target and the analysis runs to the end. -/
theorem propertyAssignment_reported_iff {allowance : Allowance} {P l r m : Node} {sp : Span}
    {op : String} {depth : Nat}
    (hA : (.assignmentExpression sp op l r, depth) ∈ P.nodesAt 0)
    (hleaf : m ∈ l.patternLeaves) (hmember : m.isMember = true)
    (hroot : (survey allowance P).isLocal true m.root = false)
    (hslot : depth = 0 → isExportSlot m ≠ .ok true) :
    (∃ own matched,
      (survey allowance P).inspect depth false false (.assignmentExpression sp op l r) =
        .ok (own, matched) ∧
      own <:+: analyzePurity allowance P ∧
      ∃ v ∈ own, v.kind = .mutation ∧ v.pattern = "property assignment") ↔
    m = l ∧ ∃ vs, (survey allowance P).walk 0 false false P = .ok vs := by
  constructor
  · rintro ⟨own, matched, hinspect, hinfix, v, hv, -, hpattern⟩
    -- only an assignment to a member reports the write, so the leaf is the whole target
    have hl : l.isMember = true :=
      (Survey.writesMember_of_propertyWrite false hinspect hv hpattern).1
    rw [Node.patternLeaves_of_isMember hl, List.mem_singleton] at hleaf
    refine ⟨hleaf, ?_⟩
    -- and a failed analysis reports its fault alone
    cases hwalk : (survey allowance P).walk 0 false false P with
    | ok vs => exact ⟨vs, rfl⟩
    | error f =>
      rw [analyzePurity_eq, hwalk] at hinfix
      have hfailure := List.mem_singleton.1 (List.IsInfix.subset hinfix hv)
      rw [hfailure] at hpattern
      simp [failure] at hpattern
  · rintro ⟨rfl, vs, hwalk⟩
    obtain ⟨quiet, spelled, own, matched, hinspect, hinfix⟩ := report_infix_analyzePurity hwalk hA
    rw [Survey.inspect_assignment_flags] at hinspect
    refine ⟨own, matched, hinspect, hinfix, ?_⟩
    -- the target is a member, so the report is the property write's
    cases m
    all_goals simp only [Node.isMember, Bool.false_eq_true] at hmember
    case memberExpression =>
      obtain ⟨ws, hws, h⟩ := except_bind_eq_ok.1 hinspect
      obtain ⟨rfl, -⟩ := Prod.mk.inj (except_pure_eq_ok.1 h)
      obtain ⟨v, hv⟩ := List.exists_mem_of_ne_nil _ (Survey.propertyWrite_ne_nil hws hslot hroot)
      obtain ⟨hkind, hpattern, -⟩ := Survey.mem_propertyWrite hws hv
      exact ⟨v, hv, hkind, hpattern⟩

/-- The assignment of `state.value = v;`. -/
def memberWrite : Node :=
  .assignmentExpression (.onFirstLine 0 15) "="
    (.memberExpression (.onFirstLine 0 11)
      (.identifier (.onFirstLine 0 5) "state") (.identifier (.onFirstLine 6 11) "value") false false)
    (.identifier (.onFirstLine 14 15) "v")

/-- `state.value = v;` -/
def memberWriteProgram : Node :=
  .program (.onFirstLine 0 16) [.expressionStatement (.onFirstLine 0 16) memberWrite] false

/-- A write to a property of a free object at the top level is reported. -/
theorem memberWrite_reported :
    ∃ own matched,
      (survey {} memberWriteProgram).inspect 0 false false memberWrite = .ok (own, matched) ∧
      own <:+: analyzePurity {} memberWriteProgram ∧
      ∃ v ∈ own, v.kind = .mutation ∧ v.pattern = "property assignment" := by
  have hA : (memberWrite, 0) ∈ memberWriteProgram.nodesAt 0 :=
    Node.mem_nodesAt_of_mem_children List.mem_cons_self <|
      Node.mem_nodesAt_of_mem_children List.mem_cons_self <| Node.self_mem_nodesAt _ _
  have hslot : isExportSlot (.memberExpression (.onFirstLine 0 11)
      (.identifier (.onFirstLine 0 5) "state") (.identifier (.onFirstLine 6 11) "value")
      false false) = .ok false := rfl
  have hok : ((survey {} memberWriteProgram).walk 0 false false memberWriteProgram).toBool = true :=
    by decide +kernel
  obtain ⟨vs, hwalk⟩ := exists_eq_ok_of_toBool hok
  exact (propertyAssignment_reported_iff hA (List.mem_singleton_self _) rfl (by decide +kernel)
    (fun _ => by rw [hslot]; simp)).2 ⟨rfl, vs, hwalk⟩

/-- The member `state.value` at columns 22 to 33. -/
def stateValue : Node :=
  .memberExpression (.onFirstLine 22 33)
    (.identifier (.onFirstLine 22 27) "state") (.identifier (.onFirstLine 28 33) "value") false false
/-- The assignment of `const set = (v) => { [state.value] = [v]; };`. -/
def patternWrite : Node :=
  .assignmentExpression (.onFirstLine 21 40) "="
    (.arrayPattern (.onFirstLine 21 34) [some stateValue])
    (.arrayExpression (.onFirstLine 37 40) [some (.identifier (.onFirstLine 38 39) "v")])
/-- The arrow function of `const set = (v) => { [state.value] = [v]; };`. -/
def patternSetter : Node :=
  .arrowFunctionExpression (.onFirstLine 12 43) [.identifier (.onFirstLine 13 14) "v"]
    (.blockStatement (.onFirstLine 19 43) [.expressionStatement (.onFirstLine 21 41) patternWrite])
    false false
/-- `const set = (v) => { [state.value] = [v]; };` -/
def patternWriteProgram : Node :=
  .program (.onFirstLine 0 44) [
    .variableDeclaration (.onFirstLine 0 44) [
      .variableDeclarator (.onFirstLine 6 43) (.identifier (.onFirstLine 6 9) "set")
        (some patternSetter)] .lexicalConst] false
/-- A write to a property of a free object through an array pattern, inside a function, is
not reported. -/
theorem patternWrite_unreported :
    (patternWrite, 1) ∈ patternWriteProgram.nodesAt 0 ∧
    stateValue ∈ Node.patternLeaves (.arrayPattern (.onFirstLine 21 34) [some stateValue]) ∧
    (survey {} patternWriteProgram).isLocal true stateValue.root = false ∧
    ∀ v ∈ analyzePurity {} patternWriteProgram, v.pattern ≠ "property assignment" := by
  refine ⟨?_, by simp [Node.patternLeaves, Node.elementLeaves, stateValue], by decide +kernel, ?_⟩
  · -- the write sits in the body of the arrow function, one function deep
    exact Node.mem_nodesAt_of_mem_children List.mem_cons_self <|
      Node.mem_nodesAt_of_mem_children List.mem_cons_self <|
      Node.mem_nodesAt_of_mem_children (List.mem_cons_of_mem _ List.mem_cons_self) <|
      Node.mem_nodesAt_of_mem_children (List.mem_append_right _ List.mem_cons_self) <|
      Node.mem_nodesAt_of_mem_children List.mem_cons_self <|
      Node.mem_nodesAt_of_mem_children List.mem_cons_self <|
      Node.self_mem_nodesAt _ _
  · intro v hv hpattern
    rcases mem_analyzePurity hv with ⟨f, -, rfl⟩ | ⟨A, dA, hA, quiet, spelled, own, matched, hinspect, hvown⟩
    · simp [failure] at hpattern
    · -- no node of the program assigns to a member
      have hnone :
          (patternWriteProgram.nodesAt 0).all (fun p => !p.1.writesMember false) = true := by
        decide +kernel
      have hA' := List.all_eq_true.1 hnone _ hA
      simp [(Survey.writesMember_of_propertyWrite false hinspect hvown hpattern).1]
        at hA'
end Purity

end ScriptGate
