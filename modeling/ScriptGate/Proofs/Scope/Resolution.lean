import ScriptGate.Proofs.Scope.References

/-!
# Where a reference resolves

The builder resolves a reference when the walk meets it, against the scopes and
bindings made so far; a name declared later in the walk is not seen.  Every walk of
the builder only extends the arena and keeps it sound, so in the finished arena each
resolved reference names a binding of its own name, in a scope on its chain
(`analyzeScopes_sound`).

That binding is the one the finished arena resolves the reference to exactly when no
scope nearer on the chain came to declare the name afterwards, and a free reference
stays free in the finished arena exactly when no scope on its chain came to declare it
(`reference_binding_iff`).  A default value that names a later parameter is the
plainest case where one does (`laterParameter_unresolved`).
-/

namespace ScriptGate

/-- The first scope of a chain that declares a name is a given one, or none, exactly when no
scope before it does. -/
theorem find?_map_eq_iff {l : List Nat} {p : Nat → Bool} {name : String}
    {o : Option BindingKey} (ho : ∀ key, o = some key → key.2 = name ∧ key.1 ∈ l ∧ p key.1 = true) :
    (l.find? p).map (·, name) = o ↔ ∀ j ∈ l.takeWhile (fun j => o != some (j, name)), p j = false := by
  induction l with
  | nil =>
    cases o with
    | none => simp
    | some key => simpa using (ho key rfl).2.1
  | cons x xs ih =>
    by_cases hx : o = some (x, name)
    · -- the given scope comes first: it declares the name, and nothing is before it
      subst hx
      simp [(ho _ rfl).2.2]
    · have ho' : ∀ key, o = some key → key.2 = name ∧ key.1 ∈ xs ∧ p key.1 = true := by
        intro key hkey
        obtain ⟨hname, hmem, hp⟩ := ho key hkey
        refine ⟨hname, ?_, hp⟩
        rcases List.mem_cons.1 hmem with heq | hmem
        · exact absurd (by rw [hkey, ← heq, ← hname]) hx
        · exact hmem
      cases hpx : p x <;> simp [hx, hpx, ih ho', Ne.symm hx]

/-- A reference of the scopes of a tree that resolved names a binding of its name, in a scope
on its chain that declares it in the end; and the finished arena resolves the reference to its
binding, or leaves it free, exactly when no scope on its chain nearer than that binding (any scope
on its chain, when it is free) declares its name in the end. -/
theorem reference_binding_iff {P : Node} {r : Reference}
    (hr : r ∈ (analyzeScopes P).references.toList) :
    (∀ key, r.binding = some key → key.2 = r.name ∧ key.1 ∈ (analyzeScopes P).chain r.scope ∧
        (analyzeScopes P).declares key.1 r.name = true) ∧
      ((analyzeScopes P).resolve r.name r.scope = r.binding ↔
        ∀ j ∈ ((analyzeScopes P).chain r.scope).takeWhile (fun j => r.binding != some (j, r.name)),
          (analyzeScopes P).declares j r.name = false) := by
  have hsound := analyzeScopes_sound P r hr
  refine ⟨hsound, ?_⟩
  rw [Arena.resolve_eq_find?]
  exact find?_map_eq_iff hsound

/-- `function f(a = b, b) {}` -/
def laterParameterProgram : Node :=
  .program (.onFirstLine 0 23) [
    .functionDeclaration (.onFirstLine 0 23) (some (.identifier (.onFirstLine 9 10) "f"))
      [.assignmentPattern (.onFirstLine 11 16) (.identifier (.onFirstLine 11 12) "a")
          (.identifier (.onFirstLine 15 16) "b"),
        .identifier (.onFirstLine 18 19) "b"]
      (.blockStatement (.onFirstLine 21 23) []) false false] false

theorem laterParameter_references_ne_nil :
    (analyzeScopes laterParameterProgram).references.toList ≠ [] :=
  List.ne_nil_of_length_pos (by decide +kernel)

theorem laterParameter_reference_binding_iff :
    ∃ r ∈ (analyzeScopes laterParameterProgram).references.toList,
      (∀ key, r.binding = some key → key.2 = r.name ∧
          key.1 ∈ (analyzeScopes laterParameterProgram).chain r.scope ∧
          (analyzeScopes laterParameterProgram).declares key.1 r.name = true) ∧
        ((analyzeScopes laterParameterProgram).resolve r.name r.scope = r.binding ↔
          ∀ j ∈ ((analyzeScopes laterParameterProgram).chain r.scope).takeWhile
              (fun j => r.binding != some (j, r.name)),
            (analyzeScopes laterParameterProgram).declares j r.name = false) :=
  ⟨_, List.head_mem laterParameter_references_ne_nil,
    reference_binding_iff (List.head_mem laterParameter_references_ne_nil)⟩

/-- In `function f(a = b, b) {}` the default `b` is met before the parameter `b` is declared: it
is left free, though the finished arena resolves it to that parameter. -/
theorem laterParameter_unresolved :
    ∃ r ∈ (analyzeScopes laterParameterProgram).references.toList,
      r.name = "b" ∧ r.binding = none ∧
        (analyzeScopes laterParameterProgram).resolve r.name r.scope = some (1, "b") :=
  ⟨_, List.head_mem laterParameter_references_ne_nil, by decide +kernel⟩

end ScriptGate
