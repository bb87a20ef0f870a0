import ScriptGate.Check.Report
import ScriptGate.Proofs.Syntax.Reading

/-!
# How the stages of a check stand to one another

A check reads the source (the syntax stage), analyses its tree (the purity
stage) and lints it (the style stage), and its report lists the errors and the
warnings of all three.

*Validity.*  A report is valid exactly when it has no errors
(`checkSource_valid_eq_errors_isEmpty`).  Each stage keeps its own flag in step
with its error diagnostics: the syntax stage reads the source exactly when it
has no diagnostic, and every one of them is an error (`checkSyntax_eq_ok`);
every purity diagnostic is an error and the stage passes when it has none
(`PurityStage.valid_eq_isEmpty`); the style stage passes when none of its
diagnostics is an error (`StyleResult.valid_eq_isEmpty`).  A source that does
not read always has a syntax error to show: a reading without a tree has
errors, and the cap keeps at least one (`readSource_errors_ne_nil`).

*The second reading.*  The style stage does not lint the tree the syntax stage
read: it reads the source again, with its format inferred from its marks and a
cap of one error.  The two readings differ only in whether top-level module
statements are errors, so the style stage fails to read a source that passed
the syntax stage exactly when that stage read it as a declared module that its
marks do not show to be one, and it has an import or export statement
(`checkSource_style_unreadable_iff`).  An import glued to its string,
`import"x";`, is such a source (`gluedImport_style_unreadable`).
-/

namespace ScriptGate

variable {source : GlyphText} {format : ModuleFormat} {cap : Nat} {file : Option String}

/-! ## The syntax stage -/

theorem checkSyntax_eq_ok {s : SyntaxStage} (h : checkSyntax source format cap file = .ok s) :
    (∀ d ∈ s.diagnostics, d.isError = true) ∧ s.valid = s.diagnostics.isEmpty := by
  unfold checkSyntax at h
  split at h
  case h_1 raw hread =>
    cases h
    simp [SyntaxStage.valid, syntaxDiagnostic, Diagnostic.isError]
  case h_2 e hne hread => cases h
  case h_3 r hread =>
    split at h
    case h_1 p hp herr =>
      cases h
      simp [SyntaxStage.valid]
    case h_2 errors hnot =>
      cases h
      -- a reading without a tree has errors, and the cap keeps at least one
      have hcap : 0 < cap := by have := readSource_cap hread; omega
      have herr : r.errors ≠ [] := by
        cases hp : r.program with
        | none => exact readSource_errors_ne_nil hread hp
        | some p => exact fun hnil => hnot p hp hnil
      have htake : r.errors.take cap ≠ [] := by
        simp [List.take_eq_nil_iff, herr, Nat.pos_iff_ne_zero.1 hcap]
      refine ⟨fun d hd => ?_, ?_⟩
      · obtain ⟨e, -, rfl⟩ := List.mem_map.1 hd
        rfl
      · simp only [SyntaxStage.valid, Option.isSome_none, List.isEmpty_map]
        exact (List.isEmpty_eq_false_iff.2 htake).symm

/-- A syntax stage with a tree read it with no error. -/
theorem checkSyntax_program {s : SyntaxStage} {p : Node}
    (h : checkSyntax source format cap file = .ok s) (hp : s.program = some p) :
    readSource source format cap = .ok ⟨some p, [], s.format⟩ := by
  unfold checkSyntax at h
  split at h
  case h_1 => cases h; cases hp
  case h_2 => cases h
  case h_3 r hread =>
    split at h
    case h_1 p' hp' herr =>
      cases h
      cases hp
      rw [hread]
      cases r
      simp_all
    case h_2 => cases h; cases hp

/-! ## The purity and style stages -/

namespace PurityStage

theorem isError_of_mem_diagnostics (p : PurityStage) {d : Diagnostic} (hd : d ∈ p.diagnostics) :
    d.isError = true := by
  obtain ⟨_, -, rfl⟩ := List.mem_map.1 hd
  rfl

theorem valid_eq_isEmpty (p : PurityStage) : p.valid = p.diagnostics.isEmpty := by
  simp [valid, diagnostics]

end PurityStage

theorem StyleResult.valid_eq_isEmpty (r : StyleResult) :
    r.valid = (r.diagnostics.filter (·.isError)).isEmpty := by
  unfold StyleResult.valid StyleResult.errorCount
  cases r.diagnostics.filter (·.isError) <;> rfl

theorem Style.runRules_ruleId_isSome {subject : Style.Subject} :
    ∀ {rules : RuleTable} {ms : List LintMessage}, Style.runRules subject rules = .ok ms →
      ∀ m ∈ ms, m.ruleId.isSome = true
  | [], ms, h, m, hm => by
    obtain rfl : [] = ms := by simpa [Style.runRules] using h
    cases hm
  | (id, setting) :: rest, ms, h, m, hm => by
    unfold Style.runRules at h
    obtain ⟨s, -, h⟩ := except_bind_eq_ok.1 h
    -- a rule that is off or has no implementation finds nothing; any other finds under its id
    have hstep : ∃ here later, (∀ m ∈ here, m.ruleId.isSome = true) ∧
        Style.runRules subject rest = .ok later ∧ ms = here ++ later := by
      dsimp only at h
      split at h
      case h_1 | h_2 =>
        simp only [pure_bind] at h
        obtain ⟨later, hlater, h⟩ := except_bind_eq_ok.1 h
        exact ⟨[], later, by simp, hlater, (except_pure_eq_ok.1 h).symm⟩
      case h_3 level rule _ _ =>
        obtain ⟨findings, -, h⟩ := except_bind_eq_ok.1 h
        simp only [pure_bind] at h
        obtain ⟨later, hlater, h⟩ := except_bind_eq_ok.1 h
        refine ⟨_, later, fun m hm => ?_, hlater, (except_pure_eq_ok.1 h).symm⟩
        obtain ⟨f, -, rfl⟩ := List.mem_map.1 hm
        rfl
    obtain ⟨here, later, hhere, hlater, rfl⟩ := hstep
    rcases List.mem_append.1 hm with hm | hm
    · exact hhere m hm
    · exact runRules_ruleId_isSome hlater m hm

section Lint

variable {rules : RuleTable} {ms : List LintMessage}

/-- A source that reads with its format inferred is linted by its rules alone. -/
theorem lint_ruleId_isSome {p : Node} {f : ModuleFormat}
    (hread : readSource source .infer 1 = .ok ⟨some p, [], f⟩) (h : lint source rules = .ok ms) :
    ∀ m ∈ ms, m.ruleId.isSome = true := by
  unfold lint at h
  rw [hread] at h
  obtain ⟨found, hfound, h⟩ := except_bind_eq_ok.1 h
  obtain rfl := except_pure_eq_ok.1 h
  intro m hm
  exact Style.runRules_ruleId_isSome hfound m (List.mem_mergeSort.1 hm)

/-- A source that does not read gives one fatal message, made of its first error. -/
theorem lint_of_errors {e : SyntaxError} {es : List SyntaxError} {f : ModuleFormat}
    (hread : readSource source .infer 1 = .ok ⟨none, e :: es, f⟩) :
    lint source rules = .ok [LintMessage.unreadable e.message e.line (e.column + 1)] := by
  unfold lint
  rw [hread]

theorem checkStyle_eq_ok {S : StyleResult}
    (h : checkStyle source rules file = .ok S) :
    ∃ ms, lint source (RuleTable.merged rules) = .ok ms ∧
      S.diagnostics = ms.map (LintMessage.toDiagnostic source file) := by
  unfold checkStyle at h
  obtain ⟨ms, hms, h⟩ := except_bind_eq_ok.1 h
  exact ⟨ms, hms, by rw [← except_pure_eq_ok.1 h]⟩

end Lint

/-! ## Reports -/

namespace Report

/-- The errors and warnings of a report split its diagnostics by severity, each in the order of
the stages. -/
theorem errors_warnings_partition (R : Report) :
    (R.errors ++ R.warnings).Perm R.diagnostics ∧ R.errors.Sublist R.diagnostics ∧
      R.warnings.Sublist R.diagnostics ∧ (∀ d ∈ R.errors, d.isError = true) ∧
      ∀ d ∈ R.warnings, d.isError = false := by
  refine ⟨List.filter_append_perm _ _, List.filter_sublist, List.filter_sublist, ?_, ?_⟩
  · intro d hd
    exact (List.mem_filter.1 hd).2
  · intro d hd
    simpa using (List.mem_filter.1 hd).2

end Report

/-- What a check that gives a report did: the syntax stage made its first stage; a source that
does not read stops there; one that reads has its purity stage, and its style stage unless
it is skipped. -/
theorem checkSource_eq_ok {o : CheckOptions} {R : Report} (h : checkSource source o = .ok R) :
    checkSyntax source o.format o.maxErrors o.file = .ok R.parsing ∧
      (R.parsing.program = none → R.purity = none ∧ R.style = none) ∧
      ∀ p, R.parsing.program = some p → R.purity = some (checkPurity source o p) ∧
        ∀ S, R.style = some S → checkStyle source o.styleRules o.file = .ok S := by
  unfold checkSource at h
  obtain ⟨s, hs, h⟩ := except_bind_eq_ok.1 h
  split at h
  case h_1 hnone =>
    obtain rfl := except_pure_eq_ok.1 h
    exact ⟨hs, fun _ => ⟨rfl, rfl⟩, fun p hp => absurd (hnone.symm.trans hp) (by simp)⟩
  case h_2 p hsome =>
    dsimp only at h
    -- the purity stage always runs on the tree; the style stage unless it is skipped
    have hR : R.parsing = s ∧ R.purity = some (checkPurity source o p) ∧
        ∀ S, R.style = some S → checkStyle source o.styleRules o.file = .ok S := by
      split at h
      · simp only [pure_bind] at h
        obtain rfl := except_pure_eq_ok.1 h
        exact ⟨rfl, rfl, fun S hS => by cases hS⟩
      · cases hc : checkStyle source o.styleRules o.file with
        | error e =>
          rw [hc] at h
          cases h
        | ok S' =>
          rw [hc] at h
          obtain rfl := except_pure_eq_ok.1 h
          exact ⟨rfl, rfl, fun S hS => by cases hS; rfl⟩
    obtain ⟨rfl, hpurity, hstyle⟩ := hR
    refine ⟨hs, fun hp => absurd (hsome.symm.trans hp) (by simp), fun p' hp => ?_⟩
    obtain rfl : p = p' := Option.some.inj (hsome.symm.trans hp)
    exact ⟨hpurity, hstyle⟩

/-- A report is valid exactly when it has no errors; its errors and warnings split the
diagnostics of the three stages by severity, in stage order; and a source that does not read
has errors and neither a purity nor a style stage. -/
theorem checkSource_valid_eq_errors_isEmpty {o : CheckOptions} {R : Report}
    (h : checkSource source o = .ok R) :
    R.valid = R.errors.isEmpty ∧
      ((R.errors ++ R.warnings).Perm R.diagnostics ∧ R.errors.Sublist R.diagnostics ∧
        R.warnings.Sublist R.diagnostics ∧ (∀ d ∈ R.errors, d.isError = true) ∧
        ∀ d ∈ R.warnings, d.isError = false) ∧
      (R.parsing.valid = false → R.purity = none ∧ R.style = none ∧ R.errors ≠ []) := by
  obtain ⟨hsyn, hnone, hsome⟩ := checkSource_eq_ok h
  obtain ⟨hsynErrors, hsynValid⟩ := checkSyntax_eq_ok hsyn
  -- the syntax and purity diagnostics are all errors, so they stand whole among the errors
  have herrors : R.errors = R.parsing.diagnostics ++ (R.purity.map PurityStage.diagnostics).getD [] ++
      ((R.style.map (·.diagnostics)).getD []).filter (·.isError) := by
    unfold Report.errors Report.diagnostics
    rw [List.filter_append, List.filter_append, List.filter_eq_self.2 hsynErrors]
    cases R.purity with
    | none => rfl
    | some P =>
      simp only [Option.map_some, Option.getD_some]
      rw [List.filter_eq_self.2 fun d hd => P.isError_of_mem_diagnostics hd]
  refine ⟨?_, R.errors_warnings_partition, fun hinvalid => ?_⟩
  · unfold Report.valid
    rw [herrors]
    cases hp : R.parsing.program with
    | none =>
      obtain ⟨hpurity, hstyle⟩ := hnone hp
      have hinvalid : R.parsing.valid = false := by simp [SyntaxStage.valid, hp]
      rw [hpurity, hstyle, hinvalid]
      simp [← hsynValid, hinvalid]
    | some p =>
      obtain ⟨hpurity, -⟩ := hsome p hp
      have hvalid : R.parsing.valid = true := by simp [SyntaxStage.valid, hp]
      have hclean : R.parsing.diagnostics = [] := by simpa [hvalid] using hsynValid
      rw [hpurity, hvalid, hclean]
      cases R.style with
      | none => simp [PurityStage.valid_eq_isEmpty]
      | some S =>
        simp only [PurityStage.valid_eq_isEmpty, StyleResult.valid_eq_isEmpty, Option.map_some,
          Option.getD_some, Bool.true_and, List.nil_append]
        cases (checkPurity source o p).diagnostics <;> rfl
  · have hp : R.parsing.program = none := by simpa [SyntaxStage.valid] using hinvalid
    obtain ⟨hpurity, hstyle⟩ := hnone hp
    refine ⟨hpurity, hstyle, ?_⟩
    rw [herrors, hpurity, hstyle]
    simpa [hinvalid] using hsynValid

/-- return 1; -/
def strayReturnSource : GlyphText := GlyphText.ofString "return 1;"

theorem strayReturn_valid_eq_errors_isEmpty :
    ∃ R, checkSource strayReturnSource {} = .ok R ∧ R.parsing.valid = false ∧
      (R.valid = R.errors.isEmpty ∧
        ((R.errors ++ R.warnings).Perm R.diagnostics ∧ R.errors.Sublist R.diagnostics ∧
          R.warnings.Sublist R.diagnostics ∧ (∀ d ∈ R.errors, d.isError = true) ∧
          ∀ d ∈ R.warnings, d.isError = false) ∧
        (R.parsing.valid = false → R.purity = none ∧ R.style = none ∧ R.errors ≠ [])) := by
  have hrun : (checkSource strayReturnSource {}).toOption.map (·.parsing.valid) = some false := by
    decide +kernel
  obtain ⟨R, hR, hvalid⟩ := exists_eq_ok_of_toOption_map hrun
  exact ⟨R, hR, hvalid, checkSource_valid_eq_errors_isEmpty hR⟩


/-! ## The second reading -/

/-- The style stage reads the source again, with its format inferred from its marks.  It fails
to read exactly when the syntax stage read a module that the marks do not show to be one, and
that module has an import or export statement: the style stage then holds only that failure. -/
theorem checkSource_style_unreadable_iff {o : CheckOptions} {R : Report} {p : Node} {S : StyleResult}
    (h : checkSource source o = .ok R) (hp : R.parsing.program = some p) (hS : R.style = some S) :
    ((∃ d ∈ S.diagnostics, d.rule = none) ↔
        o.format = .esm ∧ ModuleFormat.detect source.chars ≠ .esm ∧
          ∃ st ∈ p.children, st.isModuleItem = true) ∧
      (o.format = .esm ∧ ModuleFormat.detect source.chars ≠ .esm ∧
          (∃ st ∈ p.children, st.isModuleItem = true) →
        S.diagnostics.map (·.message) = ["Parsing error: " ++ SyntaxError.moduleInScript]) := by
  obtain ⟨hsyn, -, hsome⟩ := checkSource_eq_ok h
  obtain ⟨-, hstyle⟩ := hsome p hp
  obtain ⟨ms, hlint, hdiag⟩ := checkStyle_eq_ok (hstyle S hS)
  -- what the syntax stage read: a text recovery left whole, its errors none in the given format
  obtain ⟨rd, hrd, hfaults, hnil, hbody, -⟩ := readSource_program (checkSyntax_program hsyn hp) rfl
  obtain ⟨hmarks, hmodule, hreturns⟩ := Recovery.Outcome.errors_eq_nil_iff.1 hnil
  have hitems : (Recovery.repair source.chars.toArray).moduleItems ≠ [] ↔
      ∃ st ∈ p.children, st.isModuleItem = true := by
    rw [(Recovery.repair_coherent _).moduleItems_eq rd hrd, hbody]
    simp [Recovery.moduleItems, List.filterMap_eq_nil_iff]
  -- the errors of the same text with its format inferred: only its module statements can remain
  have hlintErrors : textErrors source .infer =
      if ModuleFormat.detect source.chars = .esm then []
      else (Recovery.repair source.chars.toArray).moduleItems.map
        (SyntaxError.atChar (Context.make source.chars.toArray {}) SyntaxError.moduleInScript) := by
    rw [textErrors, Recovery.Outcome.errors_of_clean hmarks hreturns]
    simp [ModuleFormat.resolve]
  by_cases hE : textErrors source .infer = []
  · -- the linter reads the text and runs its rules, each message under its rule
    obtain ⟨p', hread', -⟩ := readSource_of_reading (show (1 : Int) ≤ 1 by decide) hE hrd hfaults
    have hrules := lint_ruleId_isSome hread' hlint
    have hnone : ¬∃ d ∈ S.diagnostics, d.rule = none := by
      rintro ⟨d, hd, hrule⟩
      rw [hdiag] at hd
      obtain ⟨m, hm, rfl⟩ := List.mem_map.1 hd
      have hsome := hrules m hm
      simp only [LintMessage.toDiagnostic] at hrule
      simp [hrule] at hsome
    have hcond : ¬(o.format = .esm ∧ ModuleFormat.detect source.chars ≠ .esm ∧
        ∃ st ∈ p.children, st.isModuleItem = true) := by
      rintro ⟨-, hdetect, hst⟩
      rw [hlintErrors, if_neg hdetect] at hE
      exact hitems.2 hst (List.map_eq_nil_iff.1 hE)
    exact ⟨iff_of_false hnone hcond, fun hc => absurd hc hcond⟩
  · -- the linter fails to read, at the first of the module statements it takes for errors
    obtain ⟨e, es, hes⟩ := List.exists_cons_of_ne_nil
      (SyntaxError.arrange_ne_nil hE (show 0 < (1 : Int).toNat by decide))
    have hread' := readSource_of_errors_ne_nil (show (1 : Int) ≤ 1 by decide) hE
    rw [hes] at hread'
    rw [lint_of_errors hread'] at hlint
    obtain rfl := Except.ok.inj hlint
    have hdetect : ModuleFormat.detect source.chars ≠ .esm := fun hd => hE (by rw [hlintErrors, if_pos hd])
    have he := SyntaxError.mem_of_mem_arrange (hes ▸ List.mem_cons_self : e ∈ SyntaxError.arrange _ _)
    rw [hlintErrors, if_neg hdetect] at hE he
    have hmessage : e.message = SyntaxError.moduleInScript := by
      obtain ⟨i, -, rfl⟩ := List.mem_map.1 he
      rfl
    -- the syntax stage read those statements without error, so it read a module: one declared so
    have hitemsne : (Recovery.repair source.chars.toArray).moduleItems ≠ [] :=
      fun hnil => hE (by rw [hnil, List.map_nil])
    have hformat : o.format = .esm := by
      have hres : o.format.resolve source.chars = .esm := by
        rcases hmodule with hm | hm
        · simpa using hm
        · exact absurd hm hitemsne
      rcases ModuleFormat.resolve_eq_esm.1 hres with hf | ⟨-, hd⟩
      · exact hf
      · exact absurd hd hdetect
    have hcond := And.intro hformat (And.intro hdetect (hitems.1 hitemsne))
    refine ⟨iff_of_true ⟨_, by rw [hdiag]; exact List.mem_singleton_self _, rfl⟩ hcond, fun _ => ?_⟩
    rw [hdiag]
    simp [LintMessage.toDiagnostic, LintMessage.unreadable, hmessage]

/-- import"x"; -/
def gluedImportSource : GlyphText := GlyphText.ofString "import\"x\";"

/-- Read as a declared module, an import with no space after its keyword passes the syntax
stage, but the style stage, whose marks do not take it for a module, fails to read it. -/
theorem gluedImport_style_unreadable :
    ∃ R S, checkSource gluedImportSource { format := .esm } = .ok R ∧ R.parsing.valid = true ∧
      R.style = some S ∧ ∃ d ∈ S.diagnostics, d.rule = none ∧
        d.message = "Parsing error: " ++ SyntaxError.moduleInScript := by
  have hrun : (checkSource gluedImportSource { format := .esm }).toOption.map (fun R =>
      (R.parsing.valid, R.style.map fun S => S.diagnostics.map fun d => (d.rule, d.message))) =
      some (true, some [(none, "Parsing error: " ++ SyntaxError.moduleInScript)]) := by
    decide +kernel
  obtain ⟨R, hR, hres⟩ := exists_eq_ok_of_toOption_map hrun
  obtain ⟨hvalid, hstyle⟩ := Prod.mk.inj hres
  obtain ⟨S, hS, hmap⟩ := Option.map_eq_some_iff.1 hstyle
  have hmem : (none, "Parsing error: " ++ SyntaxError.moduleInScript) ∈
      S.diagnostics.map (fun d => (d.rule, d.message)) := by
    rw [hmap]
    exact List.mem_singleton_self _
  obtain ⟨d, hd, hrest⟩ := List.mem_map.1 hmem
  obtain ⟨hrule, hmessage⟩ := Prod.mk.inj hrest
  exact ⟨R, S, hR, hvalid, hS, d, hd, hrule, hmessage⟩

theorem gluedImport_style_unreadable_iff :
    ∃ R p S, checkSource gluedImportSource { format := .esm } = .ok R ∧
      R.parsing.program = some p ∧ R.style = some S ∧
      ((∃ d ∈ S.diagnostics, d.rule = none) ↔
        ({ format := .esm } : CheckOptions).format = .esm ∧
          ModuleFormat.detect gluedImportSource.chars ≠ .esm ∧
          ∃ st ∈ p.children, st.isModuleItem = true) ∧
      (({ format := .esm } : CheckOptions).format = .esm ∧
          ModuleFormat.detect gluedImportSource.chars ≠ .esm ∧
          (∃ st ∈ p.children, st.isModuleItem = true) →
        S.diagnostics.map (·.message) = ["Parsing error: " ++ SyntaxError.moduleInScript]) := by
  have hrun : (checkSource gluedImportSource { format := .esm }).toOption.map (fun R =>
      (R.parsing.program.isSome, R.style.isSome)) = some (true, true) := by
    decide +kernel
  obtain ⟨R, hR, hres⟩ := exists_eq_ok_of_toOption_map hrun
  obtain ⟨hprogram, hstyle⟩ := Prod.mk.inj hres
  obtain ⟨p, hp⟩ := Option.isSome_iff_exists.1 hprogram
  obtain ⟨S, hS⟩ := Option.isSome_iff_exists.1 hstyle
  exact ⟨R, p, S, hR, hp, hS, checkSource_style_unreadable_iff hR hp hS⟩

end ScriptGate
