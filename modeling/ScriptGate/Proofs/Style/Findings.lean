import ScriptGate.Proofs.Check.Stages

/-!
# The style stage reports the enabled rules' findings

The style stage merges the caller's settings over the default rules and runs the entries of the
merged table in its order.  An entry contributes nothing when its rule is off or has no
implementation, and otherwise one message for each finding of the rule, at the line of the
finding's node and its column counted from 1 (`Style.entryMessages`); the run is the messages
of the entries joined in the table's order (`Style.runRules_eq_mapM`).  The messages are then
sorted by place, which keeps the table's order among messages at one place
(`filter_mergeSort_precedes`), and each becomes a diagnostic, whose column counts from 0 again,
so that it is the column of the finding's node (`toDiagnostic_toMessage`).

That is the whole stage when the source reads, every setting of the caller names a level, and no
enabled rule refuses its subject (`checkStyle_folds_enabled_findings`).  A rule can refuse even
then: an option that the rule cannot use, such as an ignore pattern that is no regular
expression, or a member index too long to spell, makes the whole stage fail
(`badIgnorePattern_style_refused`).
-/

namespace ScriptGate

/-- A `mapM` whose every step succeeds succeeds. -/
theorem exists_mapM_eq_ok {ε α β : Type} {f : α → Except ε β} :
    ∀ {xs : List α}, (∀ x ∈ xs, ∃ y, f x = .ok y) → ∃ ys, xs.mapM f = .ok ys
  | [], _ => ⟨[], rfl⟩
  | x :: xs, h => by
    obtain ⟨y, hy⟩ := h x List.mem_cons_self
    obtain ⟨ys, hys⟩ := exists_mapM_eq_ok fun x' hx' => h x' (List.mem_cons_of_mem _ hx')
    exact ⟨y :: ys, by rw [List.mapM_cons, hy, hys]; rfl⟩

namespace LintMessage

/-- Whether a message goes before another one, or with it, in place order: by line, then by
column. -/
def precedes (a b : LintMessage) : Bool :=
  a.line < b.line || (a.line == b.line && a.column ≤ b.column)

/-- Whether a message stands at a line and a column. -/
def isAt (line column : Nat) (m : LintMessage) : Bool :=
  m.line == line && m.column == column

theorem precedes_trans (a b c : LintMessage) (hab : precedes a b = true)
    (hbc : precedes b c = true) : precedes a c = true := by
  simp only [precedes, Bool.or_eq_true, decide_eq_true_eq, Bool.and_eq_true, beq_iff_eq] at *
  omega

theorem precedes_total (a b : LintMessage) : (precedes a b || precedes b a) = true := by
  simp only [precedes, Bool.or_eq_true, decide_eq_true_eq, Bool.and_eq_true, beq_iff_eq]
  omega

theorem precedes_of_isAt {line column : Nat} {a b : LintMessage} (ha : a.isAt line column = true)
    (hb : b.isAt line column = true) : precedes a b = true := by
  simp only [isAt, Bool.and_eq_true, beq_iff_eq] at ha hb
  simp [precedes, ha, hb]

/-- Sorting by place keeps the order of the messages at any one place. -/
theorem filter_mergeSort_precedes (l : List LintMessage) (line column : Nat) :
    (l.mergeSort precedes).filter (isAt line column) = l.filter (isAt line column) := by
  -- the messages at one place are in order already, so the stable sort keeps them as they are
  have hsorted : (l.filter (isAt line column)).Pairwise (fun a b => precedes a b = true) :=
    List.pairwise_of_forall_mem_list fun a ha b hb =>
      precedes_of_isAt (List.mem_filter.1 ha).2 (List.mem_filter.1 hb).2
  have hsub : (l.filter (isAt line column)).Sublist
      ((l.mergeSort precedes).filter (isAt line column)) := by
    have h := List.sublist_mergeSort precedes_trans precedes_total hsorted List.filter_sublist
    simpa [List.filter_filter] using h.filter (isAt line column)
  exact (hsub.eq_of_length ((List.mergeSort_perm l precedes).filter _).length_eq.symm).symm

end LintMessage

namespace Style

/-- The message a finding of rule `id` makes at `level`: at the line of the finding's node, and
at its column counted from 1. -/
def Finding.toMessage (id : String) (level : Level) (f : Finding) : LintMessage :=
  { ruleId := some id, level := level.toNat, message := f.message, line := f.span.start.line,
    column := f.span.start.column + 1, hint := f.hint }

/-- The messages one entry of a rule table gives over a subject: none when its rule is off or
has no implementation, else one for each finding of the rule. -/
def entryMessages (subject : Subject) (entry : String × Value) :
    Except Refusal (List LintMessage) := do
  let s ← RuleSetting.read entry.1 entry.2
  match s.level, registry.lookup entry.1 with
  | .off, _ | _, none => pure []
  | level, some rule => do
    let findings ← rule subject s.options
    pure (findings.map (Finding.toMessage entry.1 level))

/-- The run of a table is its entries' messages joined in the table's order. -/
theorem runRules_eq_mapM (subject : Subject) (rules : RuleTable) :
    runRules subject rules = (rules.mapM (entryMessages subject)).map List.flatten := by
  induction rules with
  | nil => rfl
  | cons entry rest ih =>
    obtain ⟨id, setting⟩ := entry
    -- an entry's own messages come first, then the rest of the table's
    have hcons : runRules subject ((id, setting) :: rest) = (do
        let here ← entryMessages subject (id, setting)
        let later ← runRules subject rest
        return here ++ later) := by
      rw [runRules, entryMessages, bind_assoc]
      congr 1
      funext s
      -- both sides branch on the level and the implementation alike
      cases s.level <;> cases registry.lookup id <;> simp only [bind_assoc, pure_bind] <;> rfl
    rw [hcons, ih, List.mapM_cons]
    cases entryMessages subject (id, setting) <;> cases rest.mapM (entryMessages subject) <;> rfl

/-- An entry whose setting reads and whose rule, when enabled, gives its findings gives its
messages. -/
theorem entryMessages_isOk {subject : Subject} {entry : String × Value} {s : RuleSetting}
    (hread : RuleSetting.read entry.1 entry.2 = .ok s)
    (hrule : ∀ rule, s.level ≠ .off → registry.lookup entry.1 = some rule →
      ∃ findings, rule subject s.options = .ok findings) :
    ∃ ms, entryMessages subject entry = .ok ms := by
  rw [entryMessages, hread]
  dsimp only [bind, Except.bind]
  cases hr : registry.lookup entry.1 with
  | none => exact ⟨[], by cases s.level <;> rfl⟩
  | some rule =>
    cases hl : s.level with
    | off => exact ⟨[], rfl⟩
    | warn | error =>
      obtain ⟨findings, hfindings⟩ := hrule rule (by simp [hl]) hr
      exact ⟨_, by simp only [hfindings]; rfl⟩

/-- Each message of an entry is a finding of its rule, which is enabled and implemented, made
at the entry's level. -/
theorem mem_entryMessages {subject : Subject} {entry : String × Value} {ms : List LintMessage}
    (h : entryMessages subject entry = .ok ms) {m : LintMessage} (hm : m ∈ ms) :
    ∃ s rule findings f, RuleSetting.read entry.1 entry.2 = .ok s ∧ s.level ≠ .off ∧
      registry.lookup entry.1 = some rule ∧ rule subject s.options = .ok findings ∧
      f ∈ findings ∧ m = f.toMessage entry.1 s.level := by
  rw [entryMessages] at h
  obtain ⟨s, hread, h⟩ := except_bind_eq_ok.1 h
  cases hr : registry.lookup entry.1 with
  | none =>
    -- no implementation: the entry gives nothing
    have hnil : ms = [] := by
      cases hl : s.level <;> simp only [hl, hr] at h <;> exact (except_pure_eq_ok.1 h).symm
    subst hnil
    cases hm
  | some rule =>
    cases hl : s.level with
    | off =>
      simp only [hl, hr] at h
      obtain rfl := except_pure_eq_ok.1 h
      cases hm
    | warn | error =>
      simp only [hl, hr] at h
      obtain ⟨findings, hfindings, h⟩ := except_bind_eq_ok.1 h
      obtain rfl := except_pure_eq_ok.1 h
      obtain ⟨f, hf, rfl⟩ := List.mem_map.1 hm
      exact ⟨s, rule, findings, f, hread, by simp [hl], rfl, hfindings, hf, by rw [hl]⟩

/-- An entry that gives its messages had its rule, when enabled and implemented, give its
findings. -/
theorem findings_of_entryMessages {subject : Subject} {entry : String × Value}
    {ms : List LintMessage} (h : entryMessages subject entry = .ok ms) {s : RuleSetting}
    {rule : Rule} (hread : RuleSetting.read entry.1 entry.2 = .ok s) (hlevel : s.level ≠ .off)
    (hr : registry.lookup entry.1 = some rule) :
    ∃ findings, rule subject s.options = .ok findings := by
  rw [entryMessages, hread] at h
  dsimp only [bind, Except.bind] at h
  cases hl : s.level with
  | off => exact absurd hl hlevel
  | warn | error =>
    simp only [hl, hr] at h
    obtain ⟨findings, hfindings, -⟩ := except_bind_eq_ok.1 h
    exact ⟨findings, hfindings⟩

end Style

/-! ## Settings -/

namespace RuleTable

/-- Putting settings into a table only keeps its entries or takes the new ones. -/
theorem mem_put {table above : RuleTable} {e : String × Value} (h : e ∈ table.put above) :
    e ∈ table ∨ e ∈ above := by
  induction above generalizing table with
  | nil => exact .inl h
  | cons entry rest ih =>
    obtain ⟨k, v⟩ := entry
    rcases ih h with h | h
    · -- the entry stood in the table once `(k, v)` was put in
      have hstep : e ∈ table ∨ e = (k, v) := by
        dsimp only at h
        split at h
        · obtain ⟨⟨k', v'⟩, hmem, rfl⟩ := List.mem_map.1 h
          by_cases hk : k' = k
          · subst hk
            exact .inr (by simp)
          · exact .inl (by simpa [hk] using hmem)
        · rcases List.mem_append.1 h with h | h
          · exact .inl h
          · exact .inr (List.mem_singleton.1 h)
      rcases hstep with h | rfl
      · exact .inl h
      · exact .inr List.mem_cons_self
    · exact .inr (List.mem_cons_of_mem _ h)

/-- Every default setting names a level. -/
theorem read_defaults {e : String × Value} (he : e ∈ defaults) :
    ∃ s, RuleSetting.read e.1 e.2 = .ok s := by
  have hall : defaults.all (fun e => (RuleSetting.read e.1 e.2).toBool) = true := by
    decide +kernel
  exact exists_eq_ok_of_toBool (List.all_eq_true.1 hall e he)

/-- The merged table's settings name levels when the caller's do. -/
theorem read_merged {above : RuleTable}
    (h : ∀ e ∈ above, ∃ s, RuleSetting.read e.1 e.2 = .ok s) {e : String × Value}
    (he : e ∈ merged above) : ∃ s, RuleSetting.read e.1 e.2 = .ok s := by
  rcases mem_put he with he | he
  · exact read_defaults he
  · exact h e he

end RuleTable

/-! ## Diagnostics -/

/-- A finding's diagnostic stands at its node: the linter's column from 1 and the diagnostic's
from 0 cancel.  It is an error at level 2, and a warning at level 1. -/
theorem toDiagnostic_toMessage (source : GlyphText) (file : Option String) (id : String)
    (level : Level) (f : Style.Finding) :
    ((f.toMessage id level).toDiagnostic source file).location =
      { line := max f.span.start.line 1, column := f.span.start.column, file } ∧
    (((f.toMessage id level).toDiagnostic source file).severity = .error ↔ level = .error) ∧
    (((f.toMessage id level).toDiagnostic source file).severity = .warning ↔
      level ≠ .error) := by
  refine ⟨rfl, ?_, ?_⟩ <;> cases level <;>
    simp [LintMessage.toDiagnostic, Style.Finding.toMessage, severityOfLevel, Level.toNat]

theorem StyleResult.errorCount_add_warningCount (R : StyleResult) :
    R.errorCount + R.warningCount = R.diagnostics.length := by
  have hle : R.errorCount ≤ R.diagnostics.length := List.length_filter_le _ _
  unfold StyleResult.warningCount
  omega

theorem StyleResult.valid_iff (R : StyleResult) : R.valid = true ↔ R.errorCount = 0 := by
  simp [StyleResult.valid]

/-! ## The stage -/

theorem lint_eq_ok_of_runRules {source : GlyphText} {p : Node} {f : ModuleFormat} {rules : RuleTable}
    {ms : List LintMessage} (hread : readSource source .infer 1 = .ok ⟨some p, [], f⟩)
    (hrun : Style.runRules (Style.Subject.ofProgram p) rules = .ok ms) :
    lint source rules = .ok (ms.mergeSort LintMessage.precedes) := by
  rw [lint, hread]
  simp only [hrun]
  rfl

/-- When the source reads, the caller's settings name levels and no enabled rule refuses the
program, the style stage gives one diagnostic for each finding of each enabled, implemented rule
of the merged table.  The diagnostics are sorted by the place of their findings, in the table's
order at one place; each stands at its finding's node, as an error when its rule is set to 2
and as a warning when set to 1; the errors and the warnings count all the diagnostics, and the
stage passes when there is no error. -/
theorem checkStyle_folds_enabled_findings {source : GlyphText} {O : RuleTable}
    {file : Option String} {p : Node} {f : ModuleFormat}
    (hread : readSource source .infer 1 = .ok ⟨some p, [], f⟩)
    (hsettings : ∀ e ∈ O, ∃ s, RuleSetting.read e.1 e.2 = .ok s)
    (hrules : ∀ e ∈ RuleTable.merged O, ∀ s rule, RuleSetting.read e.1 e.2 = .ok s →
      s.level ≠ .off → Style.registry.lookup e.1 = some rule →
      ∃ findings, rule (Style.Subject.ofProgram p) s.options = .ok findings) :
    ∃ (R : StyleResult) (found : List (List LintMessage)) (sorted : List LintMessage),
      checkStyle source O file = .ok R ∧
      (RuleTable.merged O).mapM (Style.entryMessages (Style.Subject.ofProgram p)) = .ok found ∧
      R.diagnostics = sorted.map (LintMessage.toDiagnostic source file) ∧
      sorted.Perm found.flatten ∧ sorted.Pairwise (fun a b => a.precedes b = true) ∧
      (∀ line column, sorted.filter (LintMessage.isAt line column) =
        found.flatten.filter (LintMessage.isAt line column)) ∧
      (∀ m ∈ found.flatten, ∃ e ∈ RuleTable.merged O,
        ∃ (s : RuleSetting) (finding : Style.Finding),
        RuleSetting.read e.1 e.2 = .ok s ∧ s.level ≠ .off ∧
        m = finding.toMessage e.1 s.level ∧
        (m.toDiagnostic source file).location =
          { line := max finding.span.start.line 1, column := finding.span.start.column, file } ∧
        ((m.toDiagnostic source file).severity = .error ↔ s.level = .error) ∧
        ((m.toDiagnostic source file).severity = .warning ↔ s.level = .warn)) ∧
      R.errorCount + R.warningCount = R.diagnostics.length ∧
      (R.valid = true ↔ R.errorCount = 0) := by
  -- every entry of the merged table gives its messages
  have hentries : ∀ e ∈ RuleTable.merged O,
      ∃ ms, Style.entryMessages (Style.Subject.ofProgram p) e = .ok ms := by
    intro e he
    obtain ⟨s, hs⟩ := RuleTable.read_merged hsettings he
    exact Style.entryMessages_isOk hs fun rule hlevel hlookup =>
      hrules e he s rule hs hlevel hlookup
  obtain ⟨found, hfound⟩ := exists_mapM_eq_ok hentries
  have hrun : Style.runRules (Style.Subject.ofProgram p) (RuleTable.merged O) =
      .ok found.flatten := by
    rw [Style.runRules_eq_mapM, hfound]
    rfl
  have hlint := lint_eq_ok_of_runRules hread hrun
  let sorted := found.flatten.mergeSort LintMessage.precedes
  refine ⟨{ diagnostics := sorted.map (LintMessage.toDiagnostic source file) }, found, sorted,
    ?_, hfound, rfl, List.mergeSort_perm _ _,
    List.pairwise_mergeSort LintMessage.precedes_trans LintMessage.precedes_total _,
    LintMessage.filter_mergeSort_precedes _, ?_, StyleResult.errorCount_add_warningCount _,
    StyleResult.valid_iff _⟩
  · rw [checkStyle, hlint]
    rfl
  · -- each message is a finding of an enabled rule of the table, placed at its node
    intro m hm
    obtain ⟨ms, hms, hm⟩ := List.mem_flatten.1 hm
    obtain ⟨e, he, hentry⟩ := exists_of_mem_mapM_eq_ok hfound ms hms
    obtain ⟨s, rule, findings, finding, hs, hlevel, -, -, -, rfl⟩ :=
      Style.mem_entryMessages hentry hm
    obtain ⟨hloc, herror, hwarning⟩ := toDiagnostic_toMessage source file e.1 s.level finding
    refine ⟨e, he, s, finding, hs, hlevel, rfl, hloc, herror, hwarning.trans ?_⟩
    cases hl : s.level <;> simp_all

/-- var x; -/
def varSource : GlyphText := GlyphText.ofString "var x;"

/-- Under the default rules, `var x;` has one finding, of `no-var`, and the stage reports it as
its one error. -/
theorem varDeclaration_reported_once :
    ∃ p f, readSource varSource .infer 1 = .ok ⟨some p, [], f⟩ ∧
      (∀ e ∈ RuleTable.merged [], ∀ s rule, RuleSetting.read e.1 e.2 = .ok s →
        s.level ≠ .off → Style.registry.lookup e.1 = some rule →
        ∃ findings, rule (Style.Subject.ofProgram p) s.options = .ok findings) ∧
      ∃ R : StyleResult, checkStyle varSource [] none = .ok R ∧
        R.diagnostics.map (·.rule) = [some "no-var"] ∧
        R.errorCount + R.warningCount = R.diagnostics.length ∧
        (R.valid = true ↔ R.errorCount = 0) := by
  have hrun : (readSource varSource .infer 1).toOption.map (fun r => (r.errors.isEmpty,
      r.program.map fun p => (RuleTable.merged []).all fun e =>
        (Style.entryMessages (Style.Subject.ofProgram p) e).toBool)) = some (true, some true) := by
    decide +kernel
  obtain ⟨⟨program, errors, f⟩, hread, hres⟩ := exists_eq_ok_of_toOption_map hrun
  obtain ⟨herrors, hprogram⟩ := Prod.mk.inj hres
  obtain ⟨p, rfl, hall⟩ := Option.map_eq_some_iff.1 hprogram
  obtain rfl : errors = [] := List.isEmpty_iff.1 herrors
  -- every entry of the default table gives its messages, so no enabled rule refuses
  have hrules : ∀ e ∈ RuleTable.merged [], ∀ s rule, RuleSetting.read e.1 e.2 = .ok s →
      s.level ≠ .off → Style.registry.lookup e.1 = some rule →
      ∃ findings, rule (Style.Subject.ofProgram p) s.options = .ok findings := by
    intro e he s rule hs hlevel hr
    obtain ⟨ms, hms⟩ := exists_eq_ok_of_toBool (List.all_eq_true.1 hall e he)
    exact Style.findings_of_entryMessages hms hs hlevel hr
  obtain ⟨R, -, -, hR, -, -, -, -, -, -, hcount, hvalid⟩ :=
    checkStyle_folds_enabled_findings hread (fun e he => absurd he List.not_mem_nil) hrules
  have hfound : (checkStyle varSource [] none).toOption.map
      (fun R => R.diagnostics.map (·.rule)) = some [some "no-var"] := by
    decide +kernel
  rw [hR] at hfound
  exact ⟨p, f, hread, hrules, R, hR, Option.some.inj hfound, hcount, hvalid⟩

/-- x; -/
def bareNameSource : GlyphText := GlyphText.ofString "x;"

/-- A setting of `no-unused-vars` whose ignore pattern is no regular expression. -/
def badIgnorePattern : RuleTable :=
  [("no-unused-vars", .list ["error", .obj [("varsIgnorePattern", "(")]])]

/-- A setting that names a level can still carry an option its rule refuses: then the style
stage gives no diagnostics at all, though the source reads and no rule would find anything. -/
theorem badIgnorePattern_style_refused :
    (∃ p f, readSource bareNameSource .infer 1 = .ok ⟨some p, [], f⟩) ∧
      (∀ e ∈ badIgnorePattern, ∃ s, RuleSetting.read e.1 e.2 = .ok s) ∧
      ∀ R, checkStyle bareNameSource badIgnorePattern none ≠ .ok R := by
  have hread : (readSource bareNameSource .infer 1).toOption.map
      (fun r => (r.errors.isEmpty, r.program.isSome)) = some (true, true) := by
    decide +kernel
  obtain ⟨⟨program, errors, f⟩, hr, hres⟩ := exists_eq_ok_of_toOption_map hread
  obtain ⟨herrors, hprogram⟩ := Prod.mk.inj hres
  obtain ⟨p, rfl⟩ := Option.isSome_iff_exists.1 hprogram
  obtain rfl : errors = [] := List.isEmpty_iff.1 herrors
  have hrefused : (checkStyle bareNameSource badIgnorePattern none).toBool = false := by
    decide +kernel
  refine ⟨⟨p, f, hr⟩, fun e he => ?_, fun R hR => ?_⟩
  · rw [badIgnorePattern, List.mem_singleton] at he
    subst he
    exact ⟨_, rfl⟩
  · rw [hR] at hrefused
    cases hrefused

end ScriptGate
