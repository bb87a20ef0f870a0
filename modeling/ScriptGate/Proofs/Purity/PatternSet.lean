import ScriptGate.Purity.Path

/-!
# The most specific pattern

A set of patterns is built from a list of texts (`PatternSet.ofList`).  The
exact patterns are kept as they are; the wildcards are sorted so that a longer
prefix is tried first, ties going to the smaller text.  Matching a path gives
the path itself when it is an exact pattern, and otherwise the first wildcard
tried that covers it.

This module says which pattern that is without mentioning the sort.  The order
`triedBefore` is transitive and total, so the sorted wildcards are pairwise in
order (`wildcards_pairwise`), and the first of them to cover a path comes
before every other that does (`find?_first_of_pairwise`).  Hence
`match?_eq_some_iff`: the answer is the path when it is an exact pattern of
the list, and otherwise the most specific covering wildcard, the one of
longest prefix and, among those, of smallest text (`MostSpecific`).  There is
no answer exactly when no pattern of the list covers the path
(`match?_eq_none_iff`), and a set holds a pattern exactly when its list is not
empty (`nonempty_ofList`).  `match?_most_specific` gathers the three.
-/

namespace ScriptGate

namespace MemberPattern

/-- A wildcard covers the paths that start with its prefix and a dot; an exact
pattern covers its own text. -/
theorem covers_iff {p : MemberPattern} {path : String} :
    p.covers path = true ↔
      (p.isWildcard = true ∧ (p.pre ++ ".").toList <+: path.toList) ∨
      (p.isWildcard = false ∧ path = p.text) := by
  unfold covers
  cases p.isWildcard <;> simp [String.startsWith_string_iff]

end MemberPattern

namespace PatternSet

/-- Whether `path` is an exact pattern of a list. -/
def IsExact (patterns : List String) (path : String) : Prop :=
  path ∈ patterns ∧ (MemberPattern.mk path).isWildcard = false

/-- `w` is the most specific wildcard of `patterns` that covers `path`: it covers
the path, and every wildcard of the list that does has a shorter prefix, or one
as long and a text no smaller. -/
def MostSpecific (patterns : List String) (path w : String) : Prop :=
  w ∈ patterns ∧ (MemberPattern.mk w).isWildcard = true ∧
    (MemberPattern.mk w).covers path = true ∧
    ∀ v ∈ patterns, (MemberPattern.mk v).isWildcard = true →
      (MemberPattern.mk v).covers path = true →
        (MemberPattern.mk v).pre.length < (MemberPattern.mk w).pre.length ∨
          ((MemberPattern.mk v).pre.length = (MemberPattern.mk w).pre.length ∧ w ≤ v)

/-! ## The parts of a set -/

theorem mem_exact_iff {patterns : List String} {path : String} :
    path ∈ (ofList patterns).exact ↔ IsExact patterns path := by
  simp only [ofList, List.mem_map, List.mem_filter, Bool.not_eq_true']
  constructor
  · rintro ⟨p, ⟨⟨t, ht, rfl⟩, hwild⟩, rfl⟩
    exact ⟨ht, hwild⟩
  · rintro ⟨ht, hwild⟩
    exact ⟨⟨path⟩, ⟨⟨path, ht, rfl⟩, hwild⟩, rfl⟩

/-- An exact pattern matches its own text. -/
theorem match?_of_isExact {patterns : List String} {path : String} (h : IsExact patterns path) :
    (ofList patterns).match? path = some path := by
  simp [match?, mem_exact_iff.2 h]

/-- A path that is no exact pattern is matched by the first wildcard tried that covers it. -/
theorem match?_of_not_isExact {patterns : List String} {path : String}
    (h : ¬ IsExact patterns path) :
    (ofList patterns).match? path =
      ((ofList patterns).wildcards.find? (·.covers path)).map (·.text) := by
  have : ¬ path ∈ (ofList patterns).exact := fun hmem => h (mem_exact_iff.1 hmem)
  simp [match?, this]

theorem mem_wildcards_iff {patterns : List String} {p : MemberPattern} :
    p ∈ (ofList patterns).wildcards ↔ p.text ∈ patterns ∧ p.isWildcard = true := by
  simp only [ofList, List.mem_mergeSort, List.mem_filter, List.mem_map]
  constructor
  · rintro ⟨⟨t, ht, rfl⟩, hw⟩
    exact ⟨ht, hw⟩
  · rintro ⟨ht, hw⟩
    exact ⟨⟨p.text, ht, rfl⟩, hw⟩

/-! ## The order in which wildcards are tried -/

theorem triedBefore_iff {p q : MemberPattern} :
    triedBefore p q = true ↔
      q.pre.length < p.pre.length ∨ (p.pre.length = q.pre.length ∧ p.text ≤ q.text) := by
  simp [triedBefore]

theorem triedBefore_trans (p q r : MemberPattern) (hpq : triedBefore p q = true)
    (hqr : triedBefore q r = true) : triedBefore p r = true := by
  rw [triedBefore_iff] at *
  rcases hpq with hpq | ⟨hpq, hpq'⟩ <;> rcases hqr with hqr | ⟨hqr, hqr'⟩
  · exact .inl (by omega)
  · exact .inl (by omega)
  · exact .inl (by omega)
  · exact .inr ⟨by omega, String.le_trans hpq' hqr'⟩

theorem triedBefore_total (p q : MemberPattern) : (triedBefore p q || triedBefore q p) = true := by
  rw [Bool.or_eq_true, triedBefore_iff, triedBefore_iff]
  rcases Nat.lt_trichotomy p.pre.length q.pre.length with h | h | h
  · exact .inr (.inl h)
  · rcases String.le_total p.text q.text with ht | ht
    · exact .inl (.inr ⟨h, ht⟩)
    · exact .inr (.inr ⟨h.symm, ht⟩)
  · exact .inl (.inl h)

theorem wildcards_pairwise (patterns : List String) :
    (ofList patterns).wildcards.Pairwise fun p q => triedBefore p q = true :=
  List.pairwise_mergeSort triedBefore_trans triedBefore_total _

/-- In a list sorted by `r`, the first element that passes a test is below every
other that passes it. -/
theorem find?_first_of_pairwise {α : Type} {r : α → α → Prop} {test : α → Bool} {xs : List α}
    {b : α} (hxs : xs.Pairwise r) (h : xs.find? test = some b) :
    ∀ x ∈ xs, test x = true → x = b ∨ r b x := by
  obtain ⟨-, before, after, rfl, hbefore⟩ := List.find?_eq_some_iff_append.1 h
  intro x hx htest
  rw [List.pairwise_append, List.pairwise_cons] at hxs
  rcases List.mem_append.1 hx with hx | hx
  · -- nothing before the first passes the test
    have := hbefore x hx
    simp [htest] at this
  · rcases List.mem_cons.1 hx with rfl | hx
    · exact .inl rfl
    · exact .inr (hxs.2.1.1 x hx)

/-! ## What a match gives -/

/-- The first wildcard tried that covers a path is the most specific one. -/
theorem mostSpecific_of_find? {patterns : List String} {path : String} {p : MemberPattern}
    (h : (ofList patterns).wildcards.find? (·.covers path) = some p) :
    MostSpecific patterns path p.text := by
  have hmem : p ∈ (ofList patterns).wildcards := List.mem_of_find?_eq_some h
  obtain ⟨htext, hwild⟩ := mem_wildcards_iff.1 hmem
  have hcovers : p.covers path = true := by simpa using List.find?_some h
  refine ⟨htext, hwild, hcovers, ?_⟩
  intro v hv hvwild hvcovers
  have hvmem : MemberPattern.mk v ∈ (ofList patterns).wildcards := mem_wildcards_iff.2 ⟨hv, hvwild⟩
  rcases find?_first_of_pairwise (wildcards_pairwise patterns) h _ hvmem hvcovers with rfl | hbefore
  · exact .inr ⟨rfl, String.le_refl _⟩
  · rcases triedBefore_iff.1 hbefore with hlt | ⟨heq, hle⟩
    · exact .inl hlt
    · exact .inr ⟨heq.symm, hle⟩

/-- At most one wildcard is the most specific. -/
theorem MostSpecific.unique {patterns : List String} {path w w' : String}
    (h : MostSpecific patterns path w) (h' : MostSpecific patterns path w') : w = w' := by
  obtain ⟨hw, hwild, hcovers, hbest⟩ := h
  obtain ⟨hw', hwild', hcovers', hbest'⟩ := h'
  rcases hbest w' hw' hwild' hcovers' with hlt | ⟨heq, hle⟩
  · rcases hbest' w hw hwild hcovers with hlt' | ⟨heq', _⟩ <;> omega
  · rcases hbest' w hw hwild hcovers with hlt' | ⟨_, hle'⟩
    · omega
    · exact String.le_antisymm hle hle'

/-- A path is matched by itself when it is an exact pattern of the list, and otherwise
by the most specific wildcard that covers it. -/
theorem match?_eq_some_iff {patterns : List String} {path w : String} :
    (ofList patterns).match? path = some w ↔
      (IsExact patterns path ∧ w = path) ∨
        (¬ IsExact patterns path ∧ MostSpecific patterns path w) := by
  by_cases hexact : IsExact patterns path
  · rw [match?_of_isExact hexact]
    simp [hexact, eq_comm]
  · rw [match?_of_not_isExact hexact]
    simp only [hexact, false_and, not_false_eq_true, true_and, false_or]
    constructor
    · intro h
      obtain ⟨p, hp, rfl⟩ := Option.map_eq_some_iff.1 h
      exact mostSpecific_of_find? hp
    · intro h
      cases hfind : (ofList patterns).wildcards.find? (·.covers path) with
      | none =>
        -- the most specific wildcard is among the wildcards, and it covers the path
        obtain ⟨hw, hwild, hcovers, -⟩ := h
        have hmem : MemberPattern.mk w ∈ (ofList patterns).wildcards :=
          mem_wildcards_iff.2 ⟨hw, hwild⟩
        exact absurd hcovers (List.find?_eq_none.1 hfind _ hmem)
      | some p =>
        rw [Option.map_some, Option.some.injEq]
        exact MostSpecific.unique (mostSpecific_of_find? hfind) h

/-- No pattern matches a path exactly when no pattern of the list covers it. -/
theorem match?_eq_none_iff {patterns : List String} {path : String} :
    (ofList patterns).match? path = none ↔
      ∀ t ∈ patterns, (MemberPattern.mk t).covers path = false := by
  by_cases hexact : IsExact patterns path
  · -- the path covers itself
    rw [match?_of_isExact hexact]
    simp only [reduceCtorEq, false_iff]
    intro h
    simpa [MemberPattern.covers, hexact.2] using h path hexact.1
  · rw [match?_of_not_isExact hexact, Option.map_eq_none_iff, List.find?_eq_none]
    constructor
    · intro h t ht
      cases hwild : (MemberPattern.mk t).isWildcard
      · -- an exact pattern covers only its own text, which is not an exact pattern here
        simp only [MemberPattern.covers, hwild, Bool.false_eq_true, if_false,
          decide_eq_false_iff_not]
        rintro rfl
        exact hexact ⟨ht, hwild⟩
      · simpa using h _ (mem_wildcards_iff.2 ⟨ht, hwild⟩)
    · intro h p hp
      simpa using h p.text (mem_wildcards_iff.1 hp).1

/-- A set holds a pattern exactly when its list is not empty. -/
theorem nonempty_ofList (patterns : List String) :
    (ofList patterns).nonempty = true ↔ patterns ≠ [] := by
  constructor
  · rintro h rfl
    simp [ofList, nonempty] at h
  · intro h
    obtain ⟨t, ht⟩ := List.exists_mem_of_ne_nil patterns h
    -- the text is an exact pattern or a wildcard, and either part then holds it
    cases hwild : (MemberPattern.mk t).isWildcard
    · have hmem : t ∈ (ofList patterns).exact := mem_exact_iff.2 ⟨ht, hwild⟩
      simp [nonempty, List.ne_nil_of_mem hmem]
    · have hmem : MemberPattern.mk t ∈ (ofList patterns).wildcards :=
        mem_wildcards_iff.2 ⟨ht, hwild⟩
      simp [nonempty, List.ne_nil_of_mem hmem]

/-- Matching a path picks the most specific pattern: the path when it is an exact
pattern of the list, otherwise the covering wildcard of longest prefix (the smallest
text among those), and nothing exactly when no pattern covers it.  A set holds a
pattern exactly when its list is not empty. -/
theorem match?_most_specific (patterns : List String) (path : String) :
    (∀ w, (ofList patterns).match? path = some w ↔
      (IsExact patterns path ∧ w = path) ∨
        (¬ IsExact patterns path ∧ MostSpecific patterns path w)) ∧
    ((ofList patterns).match? path = none ↔
      ∀ t ∈ patterns, (MemberPattern.mk t).covers path = false) ∧
    ((ofList patterns).nonempty = true ↔ patterns ≠ []) :=
  ⟨fun _ => match?_eq_some_iff, match?_eq_none_iff, nonempty_ofList patterns⟩

end PatternSet

end ScriptGate
