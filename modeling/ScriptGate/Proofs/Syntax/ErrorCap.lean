import ScriptGate.Proofs.Check.Stages

/-!
# The cap on syntax errors

Reading a source gathers its errors from three places: the repairs recovery made, the
module statements of a script and the `return`s outside functions
(`Recovery.Outcome.errors`).  Only a text with none of them has its tree converted, and then
the first node the tree has no shape for is the one error.  The errors are kept once per
message and place, sorted by place with ties in their order, and cut to the cap last
(`SyntaxError.arrange`).

Since the cut comes last, the cap decides nothing but how much of one list is shown: every
reading of a text in a format shows a prefix of the same list, sorted by place and without
repeats (`readSource_errors_eq_take`), and a smaller cap shows a prefix of what a larger one
shows (`readSource_take`).  A reading has a tree exactly when it has no error
(`readSource_program_eq_none_iff`), and a node without a shape is reported only for a text
with no other error, as its one error (`readSource_unsupported`): no message of recovery, of
a module statement or of a stray `return` reads as one (`Recovery.Outcome.not_isUnsupported`).

The syntax stage shows one diagnostic per error of the reading, at its place and in its
order (`checkSyntax_of_readSource`), and a number literal without a value as one
diagnostic at the start of the text (`checkSyntax_of_malformedNumber`).
-/

namespace ScriptGate

namespace SyntaxError

/-- `a` stands no later than `b` in the text: on an earlier line, or on the same line at a
column no greater. -/
def Precedes (a b : SyntaxError) : Prop :=
  a.line < b.line ∨ (a.line = b.line ∧ a.column ≤ b.column)

/-- An error for a node the tree has no shape for. -/
def IsUnsupported (e : SyntaxError) : Prop := ∃ kind, e.message = unsupported kind

/-- The errors of a list without repeats, sorted by place: what the cap cuts. -/
def ordered (es : List SyntaxError) : List SyntaxError :=
  (dedup es).mergeSort fun a b => a.line < b.line || (a.line == b.line && a.column ≤ b.column)

theorem arrange_eq_take (es : List SyntaxError) (cap : Nat) :
    arrange es cap = (ordered es).take cap := rfl

/-! ## The list the cap cuts -/

theorem nodup_foldl_dedup :
    ∀ {es acc : List SyntaxError}, acc.Nodup →
      (es.foldl (fun acc e => if acc.contains e then acc else acc ++ [e]) acc).Nodup
  | [], _, h => h
  | x :: xs, acc, h => by
    rw [List.foldl_cons]
    refine nodup_foldl_dedup ?_
    split
    case isTrue => exact h
    case isFalse hx =>
      have hx : x ∉ acc := by simpa using hx
      refine List.nodup_append.2 ⟨h, List.nodup_cons.2 ⟨List.not_mem_nil, List.nodup_nil⟩, ?_⟩
      intro a ha b hb hab
      rw [List.mem_singleton.1 hb] at hab
      exact hx (hab ▸ ha)

theorem nodup_dedup (es : List SyntaxError) : (dedup es).Nodup :=
  nodup_foldl_dedup List.nodup_nil

theorem nodup_ordered (es : List SyntaxError) : (ordered es).Nodup :=
  (List.mergeSort_perm _ _).nodup_iff.2 (nodup_dedup es)

theorem pairwise_ordered (es : List SyntaxError) : (ordered es).Pairwise Precedes := by
  have hsorted := @List.pairwise_mergeSort SyntaxError
    (fun a b => a.line < b.line || (a.line == b.line && a.column ≤ b.column))
    (by intro a b c; simp only [Bool.or_eq_true, decide_eq_true_eq, Bool.and_eq_true, beq_iff_eq]; omega)
    (by intro a b; simp only [Bool.or_eq_true, decide_eq_true_eq, Bool.and_eq_true, beq_iff_eq]; omega)
    (dedup es)
  refine hsorted.imp fun {a b} h => ?_
  simpa [Precedes] using h

theorem ordered_singleton (e : SyntaxError) : ordered [e] = [e] := by
  simp [ordered, dedup]

/-- A larger cap shows more of the same list. -/
theorem arrange_take {es : List SyntaxError} {k k' : Nat} (h : k ≤ k') :
    arrange es k = (arrange es k').take k := by
  rw [arrange_eq_take, arrange_eq_take, List.take_take, Nat.min_eq_left h]

/-! ## Messages that are not about unsupported nodes -/

theorem unsupported_take_three (kind : String) : (unsupported kind).toList.take 3 = ['U', 'n', 's'] := by
  unfold unsupported
  rw [String.toList_append, List.take_append_of_le_length (by decide)]
  decide

theorem not_isUnsupported_of_take_three {e : SyntaxError}
    (h : e.message.toList.take 3 ≠ ['U', 'n', 's']) : ¬ e.IsUnsupported := by
  rintro ⟨kind, hk⟩
  exact h (hk ▸ unsupported_take_three kind)

theorem skippedMessage_take_three (text : String) :
    (skippedMessage text).toList.take 3 ≠ ['U', 'n', 's'] := by
  unfold skippedMessage
  dsimp only
  split
  · decide
  · split
    · decide
    · split
      · decide
      · split
        all_goals
          rw [String.toList_append, String.toList_append,
            List.take_append_of_le_length (by simp), List.take_append_of_le_length (by decide)]
          decide

theorem suppliedMessage_take_three (name : String) :
    (suppliedMessage name).toList.take 3 ≠ ['U', 'n', 's'] := by
  unfold suppliedMessage
  split
  · decide
  · rw [String.toList_append, String.toList_append,
      List.take_append_of_le_length (by simp), List.take_append_of_le_length (by decide)]
    decide

end SyntaxError

/-- No error of recovery, of a module statement in a script or of a stray `return` is one
for a node without a shape. -/
theorem Recovery.Outcome.not_isUnsupported (o : Recovery.Outcome) (ctx : Context) (isModule : Bool) :
    ∀ e ∈ o.errors ctx isModule, ¬ e.IsUnsupported := by
  intro e he
  apply SyntaxError.not_isUnsupported_of_take_three
  unfold Recovery.Outcome.errors at he
  simp only [List.mem_append, List.mem_map] at he
  rcases he with (⟨m, -, rfl⟩ | he) | ⟨i, -, rfl⟩
  · cases m with
    | skipped p leaf => exact SyntaxError.skippedMessage_take_three leaf
    | supplied p name => exact SyntaxError.suppliedMessage_take_three name
  · split at he
    · simp at he
    · obtain ⟨i, -, rfl⟩ := List.mem_map.1 he
      show SyntaxError.moduleInScript.toList.take 3 ≠ _
      decide
  · show SyntaxError.strayReturn.toList.take 3 ≠ _
    decide

/-! ## Readings under different caps -/

section Reading

variable {source : GlyphText} {format : ModuleFormat}

/-- The cut comes last: a smaller cap shows a prefix of what a larger one shows, and
everything else about the reading, its failure included, is the same. -/
theorem readSource_take {k k' : Int} (hk : 1 ≤ k) (hkk : k ≤ k') :
    readSource source format k =
      (readSource source format k').map fun r => { r with errors := r.errors.take k.toNat } := by
  have htake : ∀ es : List SyntaxError,
      SyntaxError.arrange es k.toNat = (SyntaxError.arrange es k'.toNat).take k.toNat :=
    fun _ => SyntaxError.arrange_take (by omega)
  unfold readSource
  simp only [show ¬k < 1 by omega, show ¬k' < 1 by omega, if_false]
  split
  · simp [htake, Except.map, pure, Except.pure]
  · split
    · simp [Except.map, pure, Except.pure]
    · split <;> simp [htake, Except.map, pure, Except.pure, throw, throwThe, MonadExceptOf.throw]

/-- The errors of a text that recovery finds clean: the first fault of its reading, when that
fault is a node the reader does not support. -/
def firstUnsupported (source : GlyphText) : List SyntaxError :=
  match (Recovery.repair source.chars.toArray).reading with
  | some rd =>
    match rd.faults with
    | .unsupported kind i :: _ =>
      [SyntaxError.atChar (Context.make source.chars.toArray {}) (SyntaxError.unsupported kind) i]
    | _ => []
  | none => []

/-- Every cap cuts one list, sorted by place and without repeats, that the text and the
format fix. -/
theorem readSource_errors_eq_take (source : GlyphText) (format : ModuleFormat) :
    ∃ full : List SyntaxError, full.Nodup ∧ full.Pairwise SyntaxError.Precedes ∧
      ∀ k r, readSource source format k = .ok r → r.errors = full.take k.toNat := by
  by_cases he : textErrors source format = []
  · -- with no error from recovery, the one possible error is the first unsupported node
    refine ⟨firstUnsupported source, ?_, ?_, fun k r h => ?_⟩
    · unfold firstUnsupported
      split
      · split <;> simp
      · simp
    · unfold firstUnsupported
      split
      · split <;> simp
      · simp
    obtain ⟨-, -, ⟨hne, -⟩ | ⟨-, rd, hread, hcases⟩⟩ := readSource_eq_ok h
    · exact absurd he hne
    rcases hcases with ⟨kind, i, rest, hf, -, herr⟩ | ⟨hf, herr, -⟩
    · simp only [firstUnsupported, hread, hf, herr, SyntaxError.arrange_eq_take,
        SyntaxError.ordered_singleton]
    · simp [firstUnsupported, hread, hf, herr]
  · refine ⟨SyntaxError.ordered (textErrors source format), SyntaxError.nodup_ordered _,
      SyntaxError.pairwise_ordered _, fun k r h => ?_⟩
    obtain ⟨-, -, ⟨-, -, herr⟩ | ⟨hnil, -⟩⟩ := readSource_eq_ok h
    · exact herr
    · exact absurd hnil he

/-- A reading shows no more errors than its cap. -/
theorem readSource_errors_length_le {k : Int} {r : SourceReading}
    (h : readSource source format k = .ok r) : r.errors.length ≤ k.toNat := by
  obtain ⟨full, -, -, hfull⟩ := readSource_errors_eq_take source format
  rw [hfull k r h]
  exact List.length_take_le _ _

/-- A reading has a tree exactly when it has no error. -/
theorem readSource_program_eq_none_iff {k : Int} {r : SourceReading}
    (h : readSource source format k = .ok r) : r.program = none ↔ r.errors ≠ [] := by
  constructor
  · exact readSource_errors_ne_nil h
  · intro herr
    cases hp : r.program with
    | none => rfl
    | some p =>
      obtain ⟨-, -, -, -, -, hnil⟩ := readSource_program h hp
      exact absurd hnil herr

/-- A node without a shape is reported only for a text that recovery, the format and the
`return`s find nothing wrong with, and then it is the one error. -/
theorem readSource_unsupported {k : Int} {r : SourceReading} {e : SyntaxError}
    (h : readSource source format k = .ok r) (he : e ∈ r.errors) (hu : e.IsUnsupported) :
    textErrors source format = [] ∧ r.errors = [e] := by
  obtain ⟨hcap, -, ⟨-, -, herr⟩ | ⟨hnil, rd, -, hcases⟩⟩ := readSource_eq_ok h
  · rw [herr] at he
    exact absurd hu (Recovery.Outcome.not_isUnsupported _ _ _ e (SyntaxError.mem_of_mem_arrange he))
  rcases hcases with ⟨kind, i, rest, -, -, herr⟩ | ⟨-, herr, -⟩
  · have hone : r.errors = [SyntaxError.atChar (Context.make source.chars.toArray {})
        (SyntaxError.unsupported kind) i] := by
      rw [herr, SyntaxError.arrange_eq_take, SyntaxError.ordered_singleton]
      exact List.take_of_length_le (by simp; omega)
    rw [hone] at he ⊢
    rw [List.mem_singleton.1 he]
    exact ⟨hnil, rfl⟩
  · rw [herr] at he
    cases he

end Reading

/-! ## The syntax stage -/

section Stage

variable {source : GlyphText} {format : ModuleFormat} {file : Option String}

/-- The syntax stage of a reading shows each of its errors as one diagnostic, at its place and
in its order, and has the reading's tree. -/
theorem checkSyntax_of_readSource {k : Nat} {r : SourceReading}
    (h : readSource source format k = .ok r) :
    ∃ st, checkSyntax source format k file = .ok st ∧ st.program = r.program ∧
      st.diagnostics.map (fun d => (d.message, d.location.line, d.location.column)) =
        r.errors.map fun e => (e.message, e.line, e.column) := by
  unfold checkSyntax
  rw [h]
  dsimp only
  split
  case h_1 p hp herr => exact ⟨_, rfl, hp.symm, by simp [herr]⟩
  case h_2 errors hnot =>
    have hlen := readSource_errors_length_le h
    refine ⟨_, rfl, ?_, ?_⟩
    · -- a reading with a tree has no error, which the match has ruled out
      cases hp : r.program with
      | none => rfl
      | some p =>
        obtain ⟨-, -, -, -, -, hnil⟩ := readSource_program h hp
        exact (hnot p hp hnil).elim
    · rw [List.take_of_length_le (by simpa using hlen)]
      simp [syntaxDiagnostic, Function.comp_def]

/-- A number literal without a value is one diagnostic at the start of the text. -/
theorem checkSyntax_of_malformedNumber {k : Nat} {raw : String}
    (h : readSource source format k = .error (.malformedNumber raw)) :
    ∃ st, checkSyntax source format k file = .ok st ∧ st.program = none ∧
      st.diagnostics.map (fun d => (d.location.line, d.location.column)) = [(1, 0)] := by
  unfold checkSyntax
  rw [h]
  exact ⟨_, rfl, rfl, rfl⟩

/-- The syntax stage passes exactly when the reading has a tree. -/
theorem checkSyntax_valid_iff {k : Nat} {st : SyntaxStage}
    (h : checkSyntax source format k file = .ok st) :
    st.valid = true ↔ ∃ r p, readSource source format k = .ok r ∧ r.program = some p := by
  constructor
  · intro hv
    obtain ⟨p, hp⟩ := Option.isSome_iff_exists.1 hv
    exact ⟨_, p, checkSyntax_program h hp, rfl⟩
  · rintro ⟨r, p, hr, hp⟩
    obtain ⟨st', hst', hprog, -⟩ := @checkSyntax_of_readSource source format file k r hr
    rw [h] at hst'
    cases hst'
    simp [SyntaxStage.valid, hprog, hp]

end Stage

/-- The cap on syntax errors only cuts one list: for a text and a format there is a list of
errors, sorted by place and without two of one message and place, of which every reading
shows the prefix its cap allows, a smaller cap a prefix of what a larger one shows.  A
reading has a tree exactly when it has no error; an unsupported node is reported only as the
one error of a text with no other.  The syntax stage passes exactly when the reading has a
tree; a number literal without a value is one diagnostic at the start of the text, and
otherwise each error is one diagnostic at its place, in order. -/
theorem syntax_errors_capped (source : GlyphText) (format : ModuleFormat) (file : Option String) :
    (∃ full : List SyntaxError, full.Nodup ∧ full.Pairwise SyntaxError.Precedes ∧
      ∀ k r, readSource source format k = .ok r → r.errors = full.take k.toNat) ∧
    (∀ k k' : Int, 1 ≤ k → k ≤ k' → readSource source format k =
      (readSource source format k').map fun r => { r with errors := r.errors.take k.toNat }) ∧
    (∀ k r, readSource source format k = .ok r →
      (r.program = none ↔ r.errors ≠ []) ∧
      ∀ e ∈ r.errors, e.IsUnsupported → textErrors source format = [] ∧ r.errors = [e]) ∧
    (∀ (k : Nat) st, checkSyntax source format k file = .ok st →
      (st.valid = true ↔ ∃ r p, readSource source format k = .ok r ∧ r.program = some p)) ∧
    (∀ (k : Nat) raw, readSource source format k = .error (.malformedNumber raw) →
      ∃ st, checkSyntax source format k file = .ok st ∧ st.program = none ∧
        st.diagnostics.map (fun d => (d.location.line, d.location.column)) = [(1, 0)]) ∧
    (∀ (k : Nat) r, readSource source format k = .ok r →
      ∃ st, checkSyntax source format k file = .ok st ∧ st.program = r.program ∧
        st.diagnostics.map (fun d => (d.message, d.location.line, d.location.column)) =
          r.errors.map fun e => (e.message, e.line, e.column)) :=
  ⟨readSource_errors_eq_take source format,
    fun _ _ hk hkk => readSource_take hk hkk,
    fun _ _ h => ⟨readSource_program_eq_none_iff h, fun _ he hu => readSource_unsupported h he hu⟩,
    fun _ _ h => checkSyntax_valid_iff h,
    fun _ _ h => checkSyntax_of_malformedNumber h,
    fun _ _ h => checkSyntax_of_readSource h⟩

end ScriptGate
