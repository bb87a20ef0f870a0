import Mathlib.Algebra.Group.Nat.Defs
import ScriptGate.Proofs.Purity.PropertyWrite
import ScriptGate.Proofs.Scope.Locality

/-!
# Which rebindings are reported

An assignment gives a new value to its target, or to each identifier leaf of its pattern, and
`++` or `--` gives one to its operand (`Node.Rebinds`).  The analysis reports such a write at
the identifier as a *rebinding* unless the identifier is local: unless the reference made at
its place resolved to a binding below the module scope with the reference's function scope.
The label names the variable, says whether its binding is a parameter, and is wrapped for an
update (`Purity.rebindingLabel`).

No other check reports under a label that begins as a rebinding's does (`startsRebinding`), so
a rebinding's label in the analysis comes from the rebinding of an identifier at its place
(`exists_rebinding_of_startsRebinding`).  The scopes place each identifier in the function it
lies in (`analyzeScopes_isLocal_iff`), so a write to an identifier of a program read from a text
is reported exactly when the identifier does not resolve to a binding below the module scope
declared in the function the identifier lies in, provided the analysis runs to the end
(`rebinding_reported_iff`).

The proviso is needed.  A member whose index is an integer literal of more than 4300 decimal
digits cannot be spelled as a path, the walk stops there, and the analysis reports that fault
alone, also above a write that is not local (`longIndex_rebinding_unreported`).
-/

namespace ScriptGate

namespace Node

/-! ## Writes to identifiers -/

/-- Whether `W` gives the identifier `x` a new value: as the target of an assignment or an
identifier leaf of its pattern, or, when `update` is set, as the operand of `++` or `--`. -/
def Rebinds (W x : Node) (update : Bool) : Prop :=
  match W with
  | assignmentExpression _ _ l _ => update = false ∧ x ∈ ScopeBuilder.patternIdentifiers l
  | updateExpression _ _ a _ => update = true ∧ a = x
  | _ => False

end Node

namespace Purity

/-! ## The labels of rebindings -/

/-- The label under which a new value given to `name` is reported: as a parameter's or a
variable's, inside an update expression when `update` is set. -/
def rebindingLabel (update parameter : Bool) (name : String) : String :=
  let label := (if parameter then "parameter reassignment: " else "variable reassignment: ") ++ name
  if update then "update expression (" ++ label ++ ")" else label

/-- How the label of a rebinding begins. -/
def rebindingPrefixes : List String :=
  ["update expression (", "parameter reassignment: ", "variable reassignment: "]

/-- Whether a pattern begins as the label of a rebinding does. -/
def startsRebinding (pattern : String) : Bool :=
  rebindingPrefixes.any fun pre => pre.toList.isPrefixOf pattern.toList

theorem startsRebinding_rebindingLabel (update parameter : Bool) (name : String) :
    startsRebinding (rebindingLabel update parameter name) = true := by
  cases update <;> cases parameter <;>
    simp [startsRebinding, rebindingPrefixes, rebindingLabel, String.toList_append]

/-- No forbidden name, path or call of the tables, nor the label of another write, begins as
the label of a rebinding. -/
theorem not_startsRebinding_tables :
    (forbiddenNames.all fun e => !startsRebinding e.1) = true ∧
    (forbiddenMembers.all fun e => !startsRebinding e.1) = true ∧
    (mutatingObjectCalls.all fun k => !startsRebinding k) = true ∧
    startsRebinding (propertyWriteLabel false) = false ∧
    startsRebinding (propertyWriteLabel true) = false ∧
    startsRebinding "update expression on property" = false := by
  decide

/-- A key of a table that begins as no rebinding does. -/
theorem not_startsRebinding_of_lookup {β : Type} {table : List (String × β)}
    (htable : (table.all fun e => !startsRebinding e.1) = true) {x : String}
    (h : (table.lookup x).isSome) : startsRebinding x = false := by
  obtain ⟨e, he, hx⟩ := List.lookup_isSome_iff.1 h
  rw [beq_iff_eq.1 hx]
  simpa using List.all_eq_true.1 htable e he

theorem not_startsRebinding_of_forbiddenConstruct? {x : String}
    (h : (forbiddenConstruct? x).isSome) : startsRebinding x = false := by
  unfold forbiddenConstruct? at h
  split at h
  case h_10 => simp at h
  all_goals decide

theorem not_startsRebinding_of_mutatingArrayMethod? {x : String}
    (h : (mutatingArrayMethod? x).isSome) : startsRebinding x = false := by
  unfold mutatingArrayMethod? at h
  split at h
  case h_10 => simp at h
  all_goals decide

namespace Survey

variable {s : Survey}

/-! ## Where a rebinding's label comes from -/

/-- A rebinding reports at most one breach: a mutation at the identifier, when it does not
resolve locally, labelled by whether it resolves to a parameter. -/
theorem mem_rebinding {update : Bool} {ident : Node} {v : Violation}
    (hv : v ∈ s.rebinding update ident) :
    ∃ sp name, ident = .identifier sp name ∧ (s.referenceOf ident).any s.arena.isLocal = false ∧
      v.kind = .mutation ∧
      v.pattern = rebindingLabel update ((s.referenceOf ident).any s.toParameter) name ∧
      v.span = some sp := by
  unfold rebinding at hv
  split at hv
  case h_2 => simp at hv
  case h_1 sp name =>
    refine ⟨sp, name, rfl, ?_⟩
    dsimp only at hv
    split at hv
    · simp at hv
    · rename_i hlocal
      refine ⟨by simpa using hlocal, ?_⟩
      -- the label is the parameter's or the variable's, wrapped for an update
      cases update <;> cases hp : (s.referenceOf (.identifier sp name)).any s.toParameter <;>
        simp only [hp, Bool.false_eq_true, ↓reduceIte, List.mem_singleton] at hv <;>
        subst hv <;> exact ⟨rfl, rfl, rfl⟩

/-- An identifier that does not resolve locally has its rebinding reported. -/
theorem exists_mem_rebinding (update : Bool) {sp : Span} {name : String}
    (hlocal : (s.referenceOf (.identifier sp name)).any s.arena.isLocal = false) :
    ∃ v ∈ s.rebinding update (.identifier sp name), v.kind = .mutation ∧
      v.pattern = rebindingLabel update
        ((s.referenceOf (.identifier sp name)).any s.toParameter) name ∧
      v.span = some sp := by
  unfold rebinding
  simp only [hlocal, Bool.false_eq_true, ↓reduceIte]
  cases update <;> cases hp : (s.referenceOf (.identifier sp name)).any s.toParameter <;>
    simp only [Bool.false_eq_true, ↓reduceIte] <;>
    exact ⟨_, List.mem_singleton_self _, rfl, rfl, rfl⟩

/-- Only the rebinding of an identifier reports under a pattern that begins as its label. -/
theorem exists_rebinding_of_startsRebinding {depth : Nat} {quiet spelled : Bool} {n : Node}
    {own : List Violation} {matched : Bool} {v : Violation}
    (h : s.inspect depth quiet spelled n = .ok (own, matched)) (hv : v ∈ own)
    (hpattern : startsRebinding v.pattern = true) :
    ∃ update ident, v ∈ s.rebinding update ident := by
  obtain ⟨hnames, hmembers, hcalls, hassign, hdelete, hupdate⟩ := not_startsRebinding_tables
  rcases mem_inspect h hv with hfree | hmember | ⟨ws, hws, hv⟩ | ⟨target, deletes, ws, -, hws, hv⟩ |
    hrebinding | hproperty | ⟨hconstruct, hname⟩
  · have := not_startsRebinding_of_lookup hnames (lookup_of_mem_freeName hfree)
    simp_all
  · have := not_startsRebinding_of_lookup hmembers (lookup_of_mem_forbiddenMember hmember hv)
    simp_all
  · rcases pattern_of_mem_mutatingCall hws hv with hcall | hmethod
    · have := List.all_eq_true.1 hcalls _ (List.contains_iff_mem.1 hcall)
      simp_all
    · have := not_startsRebinding_of_mutatingArrayMethod? hmethod
      simp_all
  · obtain ⟨-, hlabel, -⟩ := mem_propertyWrite hws hv
    cases deletes <;> simp_all
  · exact hrebinding
  · simp_all
  · have := not_startsRebinding_of_forbiddenConstruct? hconstruct
    simp_all

@[simp] theorem referenceOf_identifier (sp : Span) (name : String) :
    s.referenceOf (.identifier sp name) = s.arena.referenceAt sp.start.offset := rfl

/-- A reference resolves to a parameter when the binding it resolved to is one. -/
theorem any_toParameter (ref : Option Reference) :
    ref.any s.toParameter =
      (ref.bind fun r => r.binding.bind s.arena.binding?).any (·.kind == .parameter) := by
  cases ref with
  | none => rfl
  | some r =>
    simp only [toParameter, Option.any_some, Option.bind_some]
    cases r.binding <;> rfl

/-- The report of a node that gives an identifier a new value holds the rebinding of that
identifier. -/
theorem rebinding_subset_of_rebinds {depth : Nat} {quiet spelled : Bool} {W x : Node}
    {update : Bool} {own : List Violation} {matched : Bool} (hw : W.Rebinds x update)
    (h : s.inspect depth quiet spelled W = .ok (own, matched)) : s.rebinding update x ⊆ own := by
  cases W
  case assignmentExpression sp op l r =>
    obtain ⟨rfl, hx⟩ := hw
    cases l
    case memberExpression => simp [ScopeBuilder.patternIdentifiers] at hx
    -- any other target is read for the identifiers it rebinds
    all_goals
      obtain ⟨rfl, -⟩ := Prod.mk.inj (except_pure_eq_ok.1 h)
      exact fun v hv => List.mem_flatMap.2 ⟨x, hx, hv⟩
  case updateExpression sp op a pre =>
    obtain ⟨rfl, hax⟩ := hw
    subst hax
    cases a
    case identifier => exact (Prod.mk.inj (except_pure_eq_ok.1 h)).1 ▸ List.Subset.refl _
    all_goals exact fun v hv => by simp [rebinding] at hv
  all_goals exact hw.elim

end Survey

/-! ## Reported rebindings -/

@[simp] theorem survey_arena (allowance : Allowance) (P : Node) :
    (survey allowance P).arena = analyzeScopes P := rfl

open Survey in
/-- A new value given to an identifier of a program read from a text, by an assignment or by
`++` or `--`, is reported at the identifier under the label of a rebinding of its name exactly
when the identifier does not resolve to a binding below the module scope declared in the
function the identifier lies in, provided the analysis runs to the end.  The label then says
whether that binding is a parameter, and whether the write is an update. -/
theorem rebinding_reported_iff {allowance : Allowance} {P W f : Node} {depth : Nat} {sp : Span}
    {name : String} {update : Bool} (hP : P.WellShaped) (hplaces : P.PlacesFunctions)
    (hwalk : ∃ vs, (survey allowance P).walk 0 false false P = .ok vs)
    (hW : (W, depth) ∈ P.nodesAt 0) (hwrite : W.Rebinds (.identifier sp name) update)
    (hx : Node.LiesIn P (.identifier sp name) f) :
    ((∃ v ∈ analyzePurity allowance P, v.kind = .mutation ∧ v.span = some sp ∧
        ∃ u p, v.pattern = rebindingLabel u p name) ↔
      ¬∃ b, (analyzeScopes P).bindingAt sp = some b ∧ b.scope ≠ moduleScope ∧ b.DeclaredIn P f) ∧
    ((¬∃ b, (analyzeScopes P).bindingAt sp = some b ∧ b.scope ≠ moduleScope ∧ b.DeclaredIn P f) →
      ∃ v ∈ analyzePurity allowance P, v.kind = .mutation ∧ v.span = some sp ∧
        v.pattern = rebindingLabel update
          (((analyzeScopes P).bindingAt sp).any (·.kind == .parameter)) name) := by
  have hlocal := analyzeScopes_isLocal_iff hP hplaces hx
  obtain ⟨vs, hwalk⟩ := hwalk
  -- a write that is not local is reported by the node that makes it
  have hreport : (¬∃ b, (analyzeScopes P).bindingAt sp = some b ∧ b.scope ≠ moduleScope ∧
      b.DeclaredIn P f) → ∃ v ∈ analyzePurity allowance P, v.kind = .mutation ∧
        v.span = some sp ∧ v.pattern = rebindingLabel update
          (((analyzeScopes P).bindingAt sp).any (·.kind == .parameter)) name := by
    intro hnot
    obtain ⟨quiet, spelled, own, matched, hinspect, hinfix⟩ := report_infix_analyzePurity hwalk hW
    have hfalse : ((survey allowance P).referenceOf (.identifier sp name)).any
        (survey allowance P).arena.isLocal = false := by
      simpa [← hlocal] using hnot
    obtain ⟨v, hv, hkind, hpattern, hspan⟩ := exists_mem_rebinding update hfalse
    refine ⟨v, hinfix.subset (rebinding_subset_of_rebinds hwrite hinspect hv), hkind, hspan, ?_⟩
    rw [hpattern, any_toParameter]
    rfl
  refine ⟨⟨?_, fun hnot => ?_⟩, hreport⟩
  · -- a breach under a rebinding's label comes from the rebinding of an identifier at its place
    rintro ⟨v, hv, -, hspan, u, p, hpattern⟩ hloc
    rcases mem_analyzePurity hv with ⟨e, herr, -⟩ |
      ⟨A, dA, -, quiet, spelled, own, matched, hinspect, hvown⟩
    · rw [hwalk] at herr
      cases herr
    · obtain ⟨u', ident, hv'⟩ := exists_rebinding_of_startsRebinding hinspect hvown
        (hpattern ▸ startsRebinding_rebindingLabel u p name)
      obtain ⟨sp', name', rfl, hnl, -, -, hspan'⟩ := mem_rebinding hv'
      rw [hspan] at hspan'
      cases hspan'
      have hlocal' := hlocal.2 hloc
      rw [referenceOf_identifier, survey_arena] at hnl
      rw [hnl] at hlocal'
      exact Bool.false_ne_true hlocal'
  · obtain ⟨v, hv, hkind, hspan, hpattern⟩ := hreport hnot
    exact ⟨v, hv, hkind, hspan, _, _, hpattern⟩

/-- The write of `x = 1` in `let x = 0; function f() { x = 1; }`. -/
def outerWrite : Node :=
  .assignmentExpression (.onFirstLine 26 31) "="
    (.identifier (.onFirstLine 26 27) "x") (.literal (.onFirstLine 30 31) (.int 1) "1" none none)

/-- The function of `let x = 0; function f() { x = 1; }`. -/
def outerWriter : Node :=
  .functionDeclaration (.onFirstLine 11 34) (some (.identifier (.onFirstLine 20 21) "f")) []
    (.blockStatement (.onFirstLine 24 34) [.expressionStatement (.onFirstLine 26 32) outerWrite])
    false false

/-- `let x = 0; function f() { x = 1; }` -/
def outerWriteProgram : Node :=
  .program (.onFirstLine 0 34) [
    .variableDeclaration (.onFirstLine 0 10) [
      .variableDeclarator (.onFirstLine 4 9) (.identifier (.onFirstLine 4 5) "x")
        (some (.literal (.onFirstLine 8 9) (.int 0) "0" none none))] .lexicalLet,
    outerWriter] false

/-- A function that gives a new value to a variable of the module has the write reported, as
a variable's. -/
theorem outerWrite_rebinding_reported :
    outerWriteProgram.WellShaped ∧ outerWriteProgram.PlacesFunctions ∧
      (∃ vs, (survey {} outerWriteProgram).walk 0 false false outerWriteProgram = .ok vs) ∧
      (outerWrite, 1) ∈ outerWriteProgram.nodesAt 0 ∧
      outerWrite.Rebinds (.identifier (.onFirstLine 26 27) "x") false ∧
      Node.LiesIn outerWriteProgram (.identifier (.onFirstLine 26 27) "x") outerWriter ∧
      ∃ v ∈ analyzePurity {} outerWriteProgram, v.kind = .mutation ∧
        v.span = some (.onFirstLine 26 27) ∧ v.pattern = "variable reassignment: x" := by
  have hP : outerWriteProgram.WellShaped := ⟨⟨_, _, _, rfl⟩, by decide +kernel⟩
  have hplaces : outerWriteProgram.PlacesFunctions :=
    Node.placesFunctions_of_spans ⟨_, _, _, rfl⟩ (by decide +kernel) (by decide +kernel)
  have hwalk := exists_eq_ok_of_toBool (by decide +kernel :
    ((survey {} outerWriteProgram).walk 0 false false outerWriteProgram).toBool = true)
  -- the write sits in the body of the function, one function deep
  have hW : (outerWrite, 1) ∈ outerWriteProgram.nodesAt 0 :=
    Node.mem_nodesAt_of_mem_children (List.mem_cons_of_mem _ List.mem_cons_self) <|
      Node.mem_nodesAt_of_mem_children (List.mem_cons_of_mem _ List.mem_cons_self) <|
      Node.mem_nodesAt_of_mem_children List.mem_cons_self <|
      Node.mem_nodesAt_of_mem_children List.mem_cons_self <|
      Node.self_mem_nodesAt _ _
  have hwrite : outerWrite.Rebinds (.identifier (.onFirstLine 26 27) "x") false :=
    ⟨rfl, List.mem_singleton_self _⟩
  -- the identifier lies in the function, through its body, statement and assignment
  have hroot : Node.LiesIn outerWriteProgram outerWriteProgram outerWriteProgram := .root
  have hx : Node.LiesIn outerWriteProgram (.identifier (.onFirstLine 26 27) "x") outerWriter :=
    ((((hroot.enter outerWriter (List.mem_cons_of_mem _ List.mem_cons_self) rfl).1.enter _
      List.mem_cons_self rfl).1.descend List.mem_cons_self rfl).descend List.mem_cons_self
      rfl).descend List.mem_cons_self rfl
  -- the identifier resolves to the binding of the module scope, which is no parameter
  have hscope : ((analyzeScopes outerWriteProgram).bindingAt (.onFirstLine 26 27)).map
      (·.scope) = some 0 := by decide +kernel
  have hparam : ((analyzeScopes outerWriteProgram).bindingAt (.onFirstLine 26 27)).any
      (·.kind == .parameter) = false := by decide +kernel
  have hnot : ¬∃ b, (analyzeScopes outerWriteProgram).bindingAt (.onFirstLine 26 27) = some b ∧
      b.scope ≠ moduleScope ∧ b.DeclaredIn outerWriteProgram outerWriter := by
    rintro ⟨b, hb, hne, -⟩
    rw [hb] at hscope
    exact hne (Option.some.inj hscope)
  obtain ⟨v, hv, hkind, hspan, hpattern⟩ :=
    (rebinding_reported_iff hP hplaces hwalk hW hwrite hx).2 hnot
  refine ⟨hP, hplaces, hwalk, hW, hwrite, hx, v, hv, hkind, hspan, ?_⟩
  rw [hpattern, hparam]
  rfl

end Purity

/-! ## A walk that stops -/

/-- An integer can be printed exactly when it has fewer decimal digits than the limit allows
numbers: when it is below `10 ^ digitLimit`. -/
theorem Numeral.printable_iff (v : Int) :
    Numeral.printable v = true ↔ v.natAbs < 10 ^ Numeral.digitLimit := by
  rw [Numeral.printable, decide_eq_true_iff]
  show (Nat.repr v.natAbs).length ≤ _ ↔ _
  rw [Nat.repr_eq_ofList_toDigits, String.length_ofList]
  exact Nat.length_toDigits_le_iff (by decide) (by decide)

/-- `16 ^ 3600 - 1`, written with 3600 hex digits f, has more than 4300 decimal digits: it is
past `10 ^ 4300`, as `10 ^ 43 < 16 ^ 36`. -/
theorem Numeral.printable_longHex : Numeral.printable ((16 ^ 3600 - 1 : Nat) : Int) = false := by
  have hblock : 10 ^ 43 < 16 ^ 36 := by decide
  have hpow : (10 ^ 43) ^ 100 < (16 ^ 36) ^ 100 := Nat.pow_lt_pow_left hblock (by decide)
  rw [← Nat.pow_mul, ← Nat.pow_mul] at hpow
  simp only [Nat.reduceMul] at hpow
  rw [Bool.eq_false_iff, Ne, Numeral.printable_iff, Int.natAbs_natCast, Nat.not_lt,
    Numeral.digitLimit]
  -- the power stays a name: spelled out it has thousands of digits
  generalize 16 ^ 3600 = b at hpow ⊢
  omega

namespace Node

/-- A computed member whose index is an integer literal too long to print names no property:
reading it fails. -/
theorem segment?_eq_error {sp sp' : Span} {o : Node} {v : Int} {raw : String}
    {bigint : Option String} {optional : Bool} (hv : Numeral.printable v = false) :
    (memberExpression sp o (literal sp' (.int v) raw none bigint) true optional).segment? =
      .error .longInteger := by
  simp only [segment?, hv]
  rfl

/-- A member whose own link cannot be read has no path: reading it fails too. -/
theorem memberPath?_eq_error {sp : Span} {o p : Node} {computed optional : Bool} {e : PathFault}
    (h : (memberExpression sp o p computed optional).segment? = .error e) :
    (memberExpression sp o p computed optional).memberPath? = .error e := by
  rw [memberPath?, pathParts, h]
  rfl

end Node

namespace Purity

namespace Survey

variable {s : Survey}

/-- A member outside a chain already reported is checked against the forbidden paths, and
fails with its path. -/
theorem inspect_member_eq_error {depth : Nat} {spelled : Bool} {sp : Span} {o p : Node}
    {computed optional : Bool} {e : PathFault}
    (h : (Node.memberExpression sp o p computed optional).memberPath? = .error e) :
    s.inspect depth false spelled (.memberExpression sp o p computed optional) = .error e := by
  simp only [inspect, Bool.false_eq_true, ↓reduceIte, forbiddenMember, h]
  rfl

/-- A walk fails where the inspection of its root fails. -/
theorem walk_ne_ok_of_inspect {depth : Nat} {quiet spelled : Bool} {n : Node} {e : PathFault}
    (h : s.inspect depth quiet spelled n = .error e) (vs : List Violation) :
    s.walk depth quiet spelled n ≠ .ok vs := by
  intro hwalk
  obtain ⟨own, matched, found, hinspect, -⟩ := walk_eq_ok hwalk
  rw [h] at hinspect
  cases hinspect

/-- A walk fails where the walk of a child that continues no member chain fails. -/
theorem walk_ne_ok_of_child {depth : Nat} {quiet spelled name : Bool} {n c : Node}
    (hc : (c, false, name) ∈ marked n)
    (hchild : ∀ vs, s.walk (n.innerDepth depth) false name c ≠ .ok vs) (vs : List Violation) :
    s.walk depth quiet spelled n ≠ .ok vs := by
  intro hwalk
  obtain ⟨own, matched, found, -, hchildren, -⟩ := walk_eq_ok hwalk
  obtain ⟨w, -, hw⟩ := hchildren c false name hc
  rw [Bool.and_false] at hw
  exact hchild w hw

end Survey

/-- An analysis whose walk fails reports the fault alone. -/
theorem analyzePurity_eq_failure {allowance : Allowance} {P : Node}
    (h : ∀ vs, (survey allowance P).walk 0 false false P ≠ .ok vs) :
    analyzePurity allowance P = [failure .longInteger] := by
  rw [analyzePurity_eq]
  cases hwalk : (survey allowance P).walk 0 false false P with
  | ok vs => exact absurd hwalk (h vs)
  | error e =>
    cases e
    rfl

/-- The write of `x = 1` in `x = 1; o[0xf…f];`, whose index has 3600 digits f. -/
def longIndexWrite : Node :=
  .assignmentExpression (.onFirstLine 0 5) "="
    (.identifier (.onFirstLine 0 1) "x") (.literal (.onFirstLine 4 5) (.int 1) "1" none none)

/-- The member of `x = 1; o[0xf…f];`: its index has more than 4300 decimal digits.  The raw
text of the index, which no analysis reads, is written shortened. -/
def longIndex : Node :=
  .memberExpression (.onFirstLine 7 3612) (.identifier (.onFirstLine 7 8) "o")
    (.literal (.onFirstLine 9 3611) (.int ((16 ^ 3600 - 1 : Nat) : Int)) "0xf…f" none none)
    true false

/-- `x = 1; o[0xf…f];` -/
def longIndexProgram : Node :=
  .program (.onFirstLine 0 3613) [
    .expressionStatement (.onFirstLine 0 6) longIndexWrite,
    .expressionStatement (.onFirstLine 7 3613) longIndex] false

/-- A write to a free variable at the top level goes unreported when a later member has an
index too long to print: the analysis stops there, and reports its fault alone. -/
theorem longIndex_rebinding_unreported :
    longIndexProgram.WellShaped ∧ longIndexProgram.PlacesFunctions ∧
      (longIndexWrite, 0) ∈ longIndexProgram.nodesAt 0 ∧
      longIndexWrite.Rebinds (.identifier (.onFirstLine 0 1) "x") false ∧
      Node.LiesIn longIndexProgram (.identifier (.onFirstLine 0 1) "x") longIndexProgram ∧
      (analyzeScopes longIndexProgram).bindingAt (.onFirstLine 0 1) = none ∧
      analyzePurity {} longIndexProgram = [failure .longInteger] := by
  have hunbound :
      ((analyzeScopes longIndexProgram).bindingAt (.onFirstLine 0 1)).isNone = true := by
    decide +kernel
  -- the walk fails at the member, reached through the second statement with its chain unquiet
  have hfail : ∀ vs, (survey {} longIndexProgram).walk 0 false false longIndexProgram ≠ .ok vs :=
    Survey.walk_ne_ok_of_child (List.mem_cons_of_mem _ List.mem_cons_self) <|
      Survey.walk_ne_ok_of_child List.mem_cons_self <|
      Survey.walk_ne_ok_of_inspect <| Survey.inspect_member_eq_error <|
      Node.memberPath?_eq_error (Node.segment?_eq_error Numeral.printable_longHex)
  have hroot : Node.LiesIn longIndexProgram longIndexProgram longIndexProgram := .root
  refine ⟨⟨⟨_, _, _, rfl⟩, by decide +kernel⟩,
    Node.placesFunctions_of_spans ⟨_, _, _, rfl⟩ (by decide +kernel) (by decide +kernel),
    Node.mem_nodesAt_of_mem_children List.mem_cons_self <|
      Node.mem_nodesAt_of_mem_children List.mem_cons_self <| Node.self_mem_nodesAt _ _,
    ⟨rfl, List.mem_singleton_self _⟩,
    ((hroot.enter _ List.mem_cons_self rfl).1.descend List.mem_cons_self rfl).descend
      List.mem_cons_self rfl,
    Option.isNone_iff_eq_none.1 hunbound, analyzePurity_eq_failure hfail⟩

end Purity

end ScriptGate
