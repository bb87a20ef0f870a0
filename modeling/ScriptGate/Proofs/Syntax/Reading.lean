import ScriptGate.Syntax.Outcome
import ScriptGate.Proofs.Purity.Walk

/-!
# What reading a source gives

`readSource` repairs a text (`Recovery.repair`), turns what recovery found into
errors (`Recovery.Outcome.errors`), and gives the tree only when there are none
and the tree has no fault.  This module says what a reading can be.

*Recovery.*  Every outcome of recovery keeps its reading exactly when it made no
repair, and the module statements it reports are then those of the reading
(`repair_coherent`).  The repairs end in a finished reading or in the whole
text as one error, and both keep to this.

*Errors.*  Dropping repeats and sorting keep every error and lose none of a
list that has some (`SyntaxError.arrange_ne_nil`); every arranged error is one
of the list (`SyntaxError.mem_of_mem_arrange`).

*Readings.*  `readSource_eq_ok` says once everything a reading can be; the
rest is read off it.  A reading succeeds only under a cap of at least 1
(`readSource_cap`).  A reading without a tree has errors
(`readSource_errors_ne_nil`): the branch that would give neither cannot be
reached, since recovery keeps its reading when it made no repair.  A reading
with a tree comes from a text that recovery left whole, with no error for the
format it was read in (`readSource_program`); conversely such a text reads
in any format that gives it no error (`readSource_of_reading`), and in a format
that does, it gives those errors arranged (`readSource_of_errors_ne_nil`).  The
format is looked at only there: it decides whether top-level module statements
are errors.
-/

namespace ScriptGate

theorem except_throw_ne_ok {ε α : Type} {e : ε} {a : α} : (throw e : Except ε α) ≠ .ok a := by
  simp [throw, throwThe, MonadExceptOf.throw]

theorem exists_eq_ok_of_toOption_map {ε α β : Type} {x : Except ε α} {f : α → β} {b : β}
    (h : x.toOption.map f = some b) : ∃ a, x = .ok a ∧ f a = b := by
  cases x with
  | error e => cases h
  | ok a => exact ⟨a, rfl, Option.some.inj h⟩

namespace Recovery

/-! ## Outcomes of recovery -/

/-- What every outcome of repairing a text keeps to: it holds the reading exactly when it
made no repair, and then its module statements are those of the reading. -/
structure Outcome.Coherent (o : Outcome) : Prop where
  reading_isSome : o.reading.isSome = o.marks.isEmpty
  moduleItems_eq : ∀ rd, o.reading = some rd → o.moduleItems = Recovery.moduleItems rd.body

theorem finish_coherent (marks : List Mark) (r : Reading) : (finish marks r).Coherent := by
  constructor
  · unfold finish
    dsimp only
    split <;> simp_all
  · intro rd h
    unfold finish at h ⊢
    dsimp only at h ⊢
    split at h
    · cases h
      rfl
    · cases h

theorem wholeText_coherent (text : Array Char) (f : Failure) : (wholeText text f).Coherent :=
  ⟨rfl, fun _ h => by cases h⟩

theorem endRecovery_coherent (text : Array Char) (r : Repair) (f : Failure) (marks : List Mark) :
    (endRecovery text r f marks).Coherent := by
  unfold endRecovery
  dsimp only
  split
  · exact finish_coherent _ _
  · exact wholeText_coherent _ _

theorem settle_coherent (text : Array Char) (n : Nat) (r : Repair) (marks : List Mark) :
    (settle text n r marks).Coherent := by
  -- every way the repairs end is a finished reading or the whole text as one error
  fun_induction settle text n r marks
  case case1 | case3 | case4 => exact finish_coherent _ _
  case case2 | case5 | case8 => exact wholeText_coherent _ _
  case case6 => exact endRecovery_coherent _ _ _ _
  case case7 ih => exact ih

theorem repair_coherent (text : Array Char) : (repair text).Coherent :=
  settle_coherent _ _ _ _

/-- A text has no errors exactly when recovery made no repair and found no stray `return`,
and it is read as a module or has no module statement. -/
theorem Outcome.errors_eq_nil_iff {o : Outcome} {ctx : Context} {isModule : Bool} :
    o.errors ctx isModule = [] ↔
      o.marks = [] ∧ (isModule = true ∨ o.moduleItems = []) ∧ o.strayReturns = [] := by
  unfold Outcome.errors
  cases isModule <;> simp

/-- Without repairs and stray returns, the only errors are the module statements of a
script. -/
theorem Outcome.errors_of_clean {o : Outcome} {ctx : Context} {isModule : Bool}
    (hmarks : o.marks = []) (hreturns : o.strayReturns = []) :
    o.errors ctx isModule =
      if isModule then [] else o.moduleItems.map (SyntaxError.atChar ctx SyntaxError.moduleInScript) := by
  unfold Outcome.errors
  cases isModule <;> simp [hmarks, hreturns]

end Recovery

/-- A text is read as a module when it is declared one, or inferred one from its marks. -/
theorem ModuleFormat.resolve_eq_esm {format : ModuleFormat} {text : List Char} :
    format.resolve text = .esm ↔ format = .esm ∨ (format = .infer ∧ ModuleFormat.detect text = .esm) := by
  unfold ModuleFormat.resolve
  cases format <;> simp

namespace SyntaxError

/-! ## Arranging errors -/

theorem mem_foldl_dedup {e : SyntaxError} :
    ∀ {es acc : List SyntaxError},
      e ∈ es.foldl (fun acc e => if acc.contains e then acc else acc ++ [e]) acc → e ∈ acc ∨ e ∈ es
  | [], _, h => .inl h
  | x :: xs, acc, h => by
    rw [List.foldl_cons] at h
    rcases mem_foldl_dedup h with h | h
    · split at h
      · exact .inl h
      · rcases List.mem_append.1 h with h | h
        · exact .inl h
        · exact .inr (List.mem_cons.2 (.inl (List.mem_singleton.1 h)))
    · exact .inr (List.mem_cons_of_mem _ h)

theorem foldl_dedup_ne_nil :
    ∀ {es acc : List SyntaxError}, acc ≠ [] →
      es.foldl (fun acc e => if acc.contains e then acc else acc ++ [e]) acc ≠ []
  | [], _, h => h
  | x :: xs, acc, h => by
    rw [List.foldl_cons]
    refine foldl_dedup_ne_nil ?_
    split
    · exact h
    · simp

theorem mem_of_mem_dedup {e : SyntaxError} {es : List SyntaxError} (h : e ∈ dedup es) : e ∈ es :=
  (mem_foldl_dedup h).resolve_left List.not_mem_nil

theorem dedup_ne_nil {es : List SyntaxError} (h : es ≠ []) : dedup es ≠ [] := by
  obtain ⟨e, es, rfl⟩ := List.exists_cons_of_ne_nil h
  unfold dedup
  rw [List.foldl_cons]
  exact foldl_dedup_ne_nil (by simp)

theorem mem_of_mem_arrange {e : SyntaxError} {es : List SyntaxError} {cap : Nat}
    (h : e ∈ arrange es cap) : e ∈ es :=
  mem_of_mem_dedup (List.mem_mergeSort.1 (List.mem_of_mem_take h))

theorem arrange_ne_nil {es : List SyntaxError} {cap : Nat} (h : es ≠ []) (hcap : 0 < cap) :
    arrange es cap ≠ [] := by
  intro hnil
  rcases List.take_eq_nil_iff.1 hnil with hzero | hsorted
  · omega
  · have hlen := congrArg List.length hsorted
    rw [List.length_mergeSort] at hlen
    exact dedup_ne_nil h (List.eq_nil_of_length_eq_zero hlen)

end SyntaxError

/-! ## Readings -/

section Reading

/-- The errors recovery leaves in a text read in a format, before they are arranged. -/
def textErrors (source : GlyphText) (format : ModuleFormat) : List SyntaxError :=
  (Recovery.repair source.chars.toArray).errors (Context.make source.chars.toArray {})
    (format.resolve source.chars = .esm)

variable {source : GlyphText} {format : ModuleFormat} {cap : Int} {r : SourceReading}

/-- Everything a reading can be: under a cap of at least 1, either the text's errors arranged,
or, when it has none, the first unsupported node of the reading as an error, or the tree. -/
theorem readSource_eq_ok (h : readSource source format cap = .ok r) :
    1 ≤ cap ∧ r.format = format.resolve source.chars ∧
      ((textErrors source format ≠ [] ∧ r.program = none ∧
          r.errors = SyntaxError.arrange (textErrors source format) cap.toNat) ∨
        (textErrors source format = [] ∧ ∃ rd, (Recovery.repair source.chars.toArray).reading = some rd ∧
          ((∃ kind i rest, rd.faults = .unsupported kind i :: rest ∧ r.program = none ∧
              r.errors = SyntaxError.arrange [SyntaxError.atChar (Context.make source.chars.toArray {})
                (SyntaxError.unsupported kind) i] cap.toNat) ∨
            (rd.faults = [] ∧ r.errors = [] ∧
              ∃ sp, r.program = some (.program sp rd.body (format.resolve source.chars = .esm)))))) := by
  unfold readSource at h
  by_cases hcap : cap < 1
  · simp only [hcap, if_true] at h
    exact absurd h except_throw_ne_ok
  simp only [hcap, if_false] at h
  refine ⟨by omega, ?_⟩
  have hco := Recovery.repair_coherent source.chars.toArray
  have hE : (Recovery.repair source.chars.toArray).errors _ _ = textErrors source format := rfl
  rw [hE] at h
  split at h
  case isTrue hne =>
    obtain rfl := except_pure_eq_ok.1 h
    exact ⟨rfl, .inl ⟨by simpa using hne, rfl, rfl⟩⟩
  case isFalse hnil =>
    have hnil : textErrors source format = [] := by simpa using hnil
    split at h
    case h_1 hread =>
      -- no error means no repair, and recovery then keeps its reading
      have hmarks := (Recovery.Outcome.errors_eq_nil_iff.1 hnil).1
      have := hco.reading_isSome
      simp [hread, hmarks] at this
    case h_2 rd hread =>
      split at h
      case h_1 kind i hfault =>
        obtain rfl := except_pure_eq_ok.1 h
        obtain ⟨rest, hrest⟩ := List.head?_eq_some_iff.1 hfault
        exact ⟨rfl, .inr ⟨hnil, rd, hread, .inl ⟨kind, i, rest, hrest, rfl, rfl⟩⟩⟩
      case h_2 => exact absurd h except_throw_ne_ok
      case h_3 => exact absurd h except_throw_ne_ok
      case h_4 hfault =>
        obtain rfl := except_pure_eq_ok.1 h
        exact ⟨rfl, .inr ⟨hnil, rd, hread, .inr ⟨List.head?_eq_none_iff.1 hfault, rfl, _, rfl⟩⟩⟩

theorem readSource_cap (h : readSource source format cap = .ok r) : 1 ≤ cap :=
  (readSource_eq_ok h).1

/-- A reading without a tree has errors: the branch that would give neither is never reached. -/
theorem readSource_errors_ne_nil (h : readSource source format cap = .ok r)
    (hp : r.program = none) : r.errors ≠ [] := by
  obtain ⟨hcap, -, hcases⟩ := readSource_eq_ok h
  rcases hcases with ⟨hne, -, he⟩ | ⟨-, rd, -, ⟨kind, i, rest, -, -, he⟩ | ⟨-, -, sp, hprog⟩⟩
  · rw [he]
    exact SyntaxError.arrange_ne_nil hne (by omega)
  · rw [he]
    exact SyntaxError.arrange_ne_nil (List.cons_ne_nil _ _) (by omega)
  · rw [hp] at hprog
    cases hprog

/-- A reading with a tree comes from a text that recovery read whole and without fault, with
no error in the format it was read in; the tree's statements are the reading's. -/
theorem readSource_program {p : Node} (h : readSource source format cap = .ok r)
    (hp : r.program = some p) :
    ∃ rd, (Recovery.repair source.chars.toArray).reading = some rd ∧ rd.faults = [] ∧
      textErrors source format = [] ∧ p.children = rd.body ∧ r.errors = [] := by
  obtain ⟨-, -, hcases⟩ := readSource_eq_ok h
  rcases hcases with ⟨-, hnone, -⟩ | ⟨hnil, rd, hread, ⟨-, -, -, -, hnone, -⟩ | ⟨hf, herr, sp, hprog⟩⟩
  · rw [hp] at hnone
    cases hnone
  · rw [hp] at hnone
    cases hnone
  · rw [hp] at hprog
    cases hprog
    exact ⟨rd, hread, hf, hnil, rfl, herr⟩

/-- A text with errors in a format reads in it as those errors, arranged. -/
theorem readSource_of_errors_ne_nil (hcap : 1 ≤ cap) (he : textErrors source format ≠ []) :
    readSource source format cap =
      .ok ⟨none, SyntaxError.arrange (textErrors source format) cap.toNat, format.resolve source.chars⟩ := by
  unfold readSource
  simp only [show ¬cap < 1 by omega, if_false]
  rw [if_pos (by simpa [textErrors] using he)]
  rfl

/-- A text that recovery read whole and without fault reads, in a format that gives it no
error, as a tree of the reading's statements. -/
theorem readSource_of_reading {rd : Reading} (hcap : 1 ≤ cap) (he : textErrors source format = [])
    (hread : (Recovery.repair source.chars.toArray).reading = some rd) (hf : rd.faults = []) :
    ∃ p, readSource source format cap = .ok ⟨some p, [], format.resolve source.chars⟩ ∧
      p.children = rd.body := by
  unfold readSource
  simp only [show ¬cap < 1 by omega, if_false]
  unfold textErrors at he
  rw [he, if_neg (by simp), hread]
  simp only [hf, List.head?_nil]
  exact ⟨_, rfl, rfl⟩

end Reading

end ScriptGate
