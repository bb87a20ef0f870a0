import ScriptGate.Proofs.OptionalChain.Scopes

/-!
# Three walks over one pattern

The builder reads a pattern in three ways.  `patternIdentifiers` lists the names
a pattern binds or assigns; `target` records the writes of an assignment to it;
`patternExpressions` walks what a declaration pattern evaluates.  All three
descend the same way: the value of each property of an object pattern (any
other entry whole), the elements of an array pattern past its holes, the
argument of a rest element, and the left side of a default.

`Node.patternParts` lists what that descent meets, in order: the identifiers
at its leaves (`name`), the default values and computed keys it passes
(`value`), and its leaves that are neither identifiers nor patterns, such as a
member expression (`leaf`).  Each walk is one loop over those parts
(`patternWalks_share_parts`): `patternIdentifiers` keeps the names; `target`
writes each name once, read as well under a compound operator, and walks every
value and every leaf as an expression; `patternExpressions` walks the values
alone.

So the writes an assignment makes to the names of its pattern are exactly one
per name, in the order `patternIdentifiers` lists them, and a declaration walks
its defaults and computed keys and never a name it binds.  The walk of a leaf
is a walk of an expression, which records writes of its own: in
`[o[x = 1]] = y` the identifier `x` stands in no default and no computed key,
is no name of the pattern, and is written (`memberLeaf_write_unnamed`).
-/

namespace ScriptGate

/-- What the descent through a pattern meets, in order. -/
inductive PatternPart where
  /-- An identifier at a leaf: a name the pattern binds or assigns. -/
  | name (ident : Node)
  /-- A default value or a computed key: an expression the pattern evaluates. -/
  | value (e : Node)
  /-- A leaf that is neither an identifier nor a pattern, such as a member expression. -/
  | leaf (e : Node)
deriving Inhabited

namespace PatternPart

/-- The identifier of a name. -/
def name? : PatternPart → Option Node
  | name i => some i
  | _ => none

/-- The expression of a default value or a computed key. -/
def value? : PatternPart → Option Node
  | value e => some e
  | _ => none

@[simp] theorem name?_name (i : Node) : (name i).name? = some i := rfl
@[simp] theorem name?_value (e : Node) : (value e).name? = none := rfl
@[simp] theorem name?_leaf (e : Node) : (leaf e).name? = none := rfl
@[simp] theorem value?_name (i : Node) : (name i).value? = none := rfl
@[simp] theorem value?_value (e : Node) : (value e).value? = some e := rfl
@[simp] theorem value?_leaf (e : Node) : (leaf e).value? = none := rfl

end PatternPart

namespace Node

open PatternPart

mutual

/-- The parts of a pattern in the order the walks meet them. -/
def patternParts : Node → List PatternPart
  | p@(identifier ..) => [name p]
  | assignmentPattern _ l r => patternParts l ++ [value r]
  | objectPattern _ props => propertyParts props
  | arrayPattern _ es => elementParts es
  | restElement _ a => patternParts a
  | p => [leaf p]
termination_by structural p => p

/-- The parts of the entries of an object pattern: a property's computed key, then its
value; any other entry whole. -/
def propertyParts : List Node → List PatternPart
  | [] => []
  | property _ k v _ computed _ _ :: props =>
    (if computed then [value k] else []) ++ patternParts v ++ propertyParts props
  | p :: props => patternParts p ++ propertyParts props
termination_by structural props => props

/-- The parts of the elements of an array pattern; a hole has none. -/
def elementParts : List (Option Node) → List PatternPart
  | [] => []
  | some e :: es => patternParts e ++ elementParts es
  | none :: es => elementParts es
termination_by structural es => es

end

/-- The parts of one entry of an object pattern. -/
def entryParts : Node → List PatternPart
  | property _ k v _ computed _ _ => (if computed then [value k] else []) ++ patternParts v
  | p => patternParts p

/-- The parts of one element of an array pattern. -/
def elementPartsOf : Option Node → List PatternPart
  | some e => patternParts e
  | none => []

theorem propertyParts_eq_flatMap (props : List Node) :
    propertyParts props = props.flatMap entryParts := by
  induction props with
  | nil => rfl
  | cons p props ih =>
    cases p <;> simp [propertyParts, entryParts, ih]

theorem elementParts_eq_flatMap (es : List (Option Node)) :
    elementParts es = es.flatMap elementPartsOf := by
  induction es with
  | nil => rfl
  | cons e es ih => cases e <;> simp [elementParts, elementPartsOf, ih]

end Node

namespace ScopeBuilder

open Node PatternPart

/-- What an assignment does with a part of its target: a name is written, and read when
`read` is set; a value and a leaf are walked as expressions. -/
def assignPart (scope : Nat) (read : Bool) : PatternPart → ScopeM PUnit
  | name i => do let _ ← addReference i scope read true
  | value e | leaf e => visit e scope

/-- What a declaration does with a part of its pattern, past binding its names: it walks
the values, and nothing else. -/
def evaluatePart (scope : Nat) : PatternPart → ScopeM PUnit
  | value e => visit e scope
  | _ => pure ()

/-! ## The names of a pattern -/

mutual

theorem patternIdentifiers_eq_names (p : Node) :
    patternIdentifiers p = (patternParts p).filterMap PatternPart.name? := by
  cases p
  case assignmentPattern sp l r =>
    simp [patternIdentifiers, patternParts, patternIdentifiers_eq_names l]
  case objectPattern sp props =>
    rw [patternIdentifiers, patternParts]
    exact propertyIdentifiers_eq_names props
  case arrayPattern sp es =>
    rw [patternIdentifiers, patternParts]
    exact elementIdentifiers_eq_names es
  case restElement sp a =>
    rw [patternIdentifiers, patternParts]
    exact patternIdentifiers_eq_names a
  -- an identifier is its own name; any other leaf has none
  all_goals simp [patternIdentifiers, patternParts]
termination_by structural p

theorem propertyIdentifiers_eq_names (props : List Node) :
    propertyIdentifiers props = (propertyParts props).filterMap PatternPart.name? := by
  cases props with
  | nil => rfl
  | cons p props =>
    cases p
    case property sp k v kind computed method shorthand =>
      cases computed <;>
        simp [propertyIdentifiers, propertyParts, patternIdentifiers_eq_names v,
          propertyIdentifiers_eq_names props, List.filterMap_cons]
    all_goals
      simp only [propertyIdentifiers, propertyParts, List.filterMap_append]
      rw [patternIdentifiers_eq_names, propertyIdentifiers_eq_names props]
termination_by structural props

theorem elementIdentifiers_eq_names (es : List (Option Node)) :
    elementIdentifiers es = (elementParts es).filterMap PatternPart.name? := by
  cases es with
  | nil => rfl
  | cons e es =>
    cases e with
    | some e =>
      simp only [elementIdentifiers, elementParts, List.filterMap_append]
      rw [patternIdentifiers_eq_names e, elementIdentifiers_eq_names es]
    | none =>
      rw [elementIdentifiers, elementParts]
      exact elementIdentifiers_eq_names es
termination_by structural es

end

/-! ## Loops over parts -/

theorem forM_flatMap {β γ : Type} (xs : List β) (g : β → List γ) (f : γ → ScopeM PUnit) :
    (xs.flatMap g).forM f = xs.forM fun x => (g x).forM f := by
  induction xs with
  | nil => rfl
  | cons x xs ih =>
    simp only [List.forM_eq_forM] at ih ⊢
    simp [List.flatMap_cons, List.forM_append, ih]

/-- A loop over a list with proofs of membership is the loop over the list, when each
step does what `g` does with the member. -/
theorem forM_attach_of_eq {β : Type} {xs : List β} {f : {x // x ∈ xs} → ScopeM PUnit}
    {g : β → ScopeM PUnit} (h : ∀ x (hx : x ∈ xs), f ⟨x, hx⟩ = g x) :
    xs.attach.forM f = xs.forM g := by
  have hf : f = fun y => g y.1 := funext fun ⟨x, hx⟩ => h x hx
  subst hf
  exact forM_attach xs g

/-! ## The writes of an assignment -/

/-- `target` walks the parts of its pattern in order: each name is written once, each
value and leaf walked as an expression. -/
theorem target_eq_forM_parts (t : Node) (scope : Nat) (read : Bool) :
    target t scope read = (patternParts t).forM (assignPart scope read) := by
  rw [target.eq_def]
  cases t
  case identifier sp name => simp [patternParts, assignPart]
  case assignmentPattern sp l r =>
    simp [patternParts, List.forM_append, target_eq_forM_parts l scope read, assignPart]
  case objectPattern sp props =>
    rw [patternParts, propertyParts_eq_flatMap, forM_flatMap]
    refine forM_attach_of_eq fun prop hprop => ?_
    -- a property walks its computed key, then the parts of its value
    cases prop
    case property sp' k v kind computed method shorthand =>
      cases computed <;> simp [entryParts, target_eq_forM_parts v scope read, assignPart]
    all_goals exact target_eq_forM_parts _ scope read
  case arrayPattern sp es =>
    rw [patternParts, elementParts_eq_flatMap, forM_flatMap]
    refine forM_attach_of_eq fun e he => ?_
    cases e with
    | none => rfl
    | some e => exact target_eq_forM_parts e scope read
  case restElement sp a => exact target_eq_forM_parts a scope read
  -- any other target is a leaf, walked as an expression
  all_goals simp [patternParts, assignPart]
termination_by sizeOf t
decreasing_by
  all_goals
    first
    | (simp <;> omega)
    | (have hs := List.sizeOf_lt_of_mem ‹_ ∈ _›; simp at hs ⊢ <;> omega)

/-! ## What a declaration evaluates -/

/-- `patternExpressions` walks the values of its pattern in order, and nothing else. -/
theorem patternExpressions_eq_forM_parts (p : Node) (scope : Nat) :
    patternExpressions p scope = (patternParts p).forM (evaluatePart scope) := by
  rw [patternExpressions.eq_def]
  cases p
  case identifier sp name => simp [patternParts, evaluatePart]
  case assignmentPattern sp l r =>
    simp [patternParts, List.forM_append, patternExpressions_eq_forM_parts l scope, evaluatePart]
  case objectPattern sp props =>
    rw [patternParts, propertyParts_eq_flatMap, forM_flatMap]
    refine forM_attach_of_eq fun prop hprop => ?_
    cases prop
    case property sp' k v kind computed method shorthand =>
      cases computed <;>
        simp [entryParts, patternExpressions_eq_forM_parts v scope, evaluatePart]
    all_goals exact patternExpressions_eq_forM_parts _ scope
  case arrayPattern sp es =>
    rw [patternParts, elementParts_eq_flatMap, forM_flatMap]
    refine forM_attach_of_eq fun e he => ?_
    cases e with
    | none => rfl
    | some e => exact patternExpressions_eq_forM_parts e scope
  case restElement sp a => exact patternExpressions_eq_forM_parts a scope
  -- any other pattern is a leaf, left unwalked
  all_goals simp [patternParts, evaluatePart]
termination_by sizeOf p
decreasing_by
  all_goals
    first
    | (simp <;> omega)
    | (have hs := List.sizeOf_lt_of_mem ‹_ ∈ _›; simp at hs ⊢ <;> omega)

/-! ## One descent for three walks -/

/-- The three walks of a pattern cut it into the same parts, in the same order: its names
are the name parts; an assignment writes each name once and walks each default value,
computed key and other leaf as an expression; a declaration walks its default values and
computed keys alone. -/
theorem patternWalks_share_parts (t : Node) (scope : Nat) (read : Bool) :
    patternIdentifiers t = (patternParts t).filterMap PatternPart.name? ∧
      target t scope read = (patternParts t).forM (assignPart scope read) ∧
      patternExpressions t scope = (patternParts t).forM (evaluatePart scope) :=
  ⟨patternIdentifiers_eq_names t, target_eq_forM_parts t scope read,
    patternExpressions_eq_forM_parts t scope⟩

/-- The target of `[o[x = 1]] = y`: an array pattern whose one element is a member
expression with an assignment for its index. -/
def memberLeafTarget : Node :=
  .arrayPattern (.onFirstLine 0 10)
    [some (.memberExpression (.onFirstLine 1 9) (.identifier (.onFirstLine 1 2) "o")
      (.assignmentExpression (.onFirstLine 3 8) "=" (.identifier (.onFirstLine 3 4) "x")
        (.literal (.onFirstLine 7 8) (.int 1) "1" none none)) true false)]

/-- In `[o[x = 1]] = y` the target has no name, no default and no computed key, and yet
the assignment writes `x`, which the walk of the member leaf meets. -/
theorem memberLeaf_write_unnamed :
    patternIdentifiers memberLeafTarget = [] ∧
      (patternParts memberLeafTarget).filterMap PatternPart.value? = [] ∧
      ((target memberLeafTarget 0 false).run {}).2.references.toList.map
          (fun r => (r.name, r.span, r.isRead, r.isWrite)) =
        [("o", .onFirstLine 1 2, true, false), ("x", .onFirstLine 3 4, false, true)] := by
  refine ⟨rfl, rfl, ?_⟩
  decide +kernel

end ScopeBuilder

end ScriptGate
