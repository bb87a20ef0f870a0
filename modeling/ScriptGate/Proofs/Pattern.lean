import ScriptGate.Scope.Builder

/-!
# The leaves of a pattern

A binding or assignment pattern is a tree of object patterns, array patterns,
rest elements and defaults, and what it binds or assigns stands at its leaves.
The leaves are usually identifiers, but an assignment target may also hold
members (`[o.x] = v`), and the parser lets a declaration's pattern hold them as
well (`const [o.x] = v`).

`Node.patternLeaves` lists the leaves in order: the value of each property of an
object pattern (any other entry, a rest element, whole), the elements of an
array pattern, the argument of a rest element, and the left side of a default.
The identifiers a pattern introduces are exactly its identifier leaves
(`patternIdentifiers_eq_filter`): a member leaf is never among them.
-/

namespace ScriptGate

/-- The span of the columns `start` to `stop` on the first line of a text. -/
def Span.onFirstLine (start stop : Nat) : Span := ⟨⟨start, 1, start⟩, ⟨stop, 1, stop⟩⟩

namespace Node

/-- Whether a node is an identifier. -/
def isIdentifier : Node → Bool
  | .identifier .. => true
  | _ => false

/-- Whether a node is a member expression. -/
def isMember : Node → Bool
  | .memberExpression .. => true
  | _ => false

/-- Whether a node is one of the four kinds that patterns are built of. -/
def isPatternNode : Node → Bool
  | .objectPattern .. | .arrayPattern .. | .restElement .. | .assignmentPattern .. => true
  | _ => false

mutual

/-- The leaves of a pattern, in order. -/
def patternLeaves : Node → List Node
  | .objectPattern _ props => propertyLeaves props
  | .arrayPattern _ es => elementLeaves es
  | .restElement _ a => patternLeaves a
  | .assignmentPattern _ l _ => patternLeaves l
  | p => [p]
termination_by structural p => p

/-- The leaves below the entries of an object pattern. -/
def propertyLeaves : List Node → List Node
  | [] => []
  | .property _ _ v .. :: props => patternLeaves v ++ propertyLeaves props
  | p :: props => patternLeaves p ++ propertyLeaves props
termination_by structural props => props

/-- The leaves below the elements of an array pattern; a hole has none. -/
def elementLeaves : List (Option Node) → List Node
  | [] => []
  | some e :: es => patternLeaves e ++ elementLeaves es
  | none :: es => elementLeaves es
termination_by structural es => es

end

theorem patternLeaves_of_not_isPatternNode {p : Node} (h : p.isPatternNode = false) :
    p.patternLeaves = [p] := by
  cases p <;> simp_all [isPatternNode, patternLeaves]

/-- A member is its own only leaf. -/
theorem patternLeaves_of_isMember {p : Node} (h : p.isMember = true) : p.patternLeaves = [p] := by
  cases p <;> simp_all [isMember, patternLeaves]

mutual

/-- The identifiers a pattern introduces are its identifier leaves. -/
theorem patternIdentifiers_eq_filter (p : Node) :
    ScopeBuilder.patternIdentifiers p = (patternLeaves p).filter isIdentifier := by
  cases p
  case objectPattern props =>
    simp only [ScopeBuilder.patternIdentifiers, patternLeaves]
    exact propertyIdentifiers_eq_filter props
  case arrayPattern es =>
    simp only [ScopeBuilder.patternIdentifiers, patternLeaves]
    exact elementIdentifiers_eq_filter es
  case restElement a =>
    simp only [ScopeBuilder.patternIdentifiers, patternLeaves]
    exact patternIdentifiers_eq_filter a
  case assignmentPattern l _ =>
    simp only [ScopeBuilder.patternIdentifiers, patternLeaves]
    exact patternIdentifiers_eq_filter l
  -- every other node is a leaf: an identifier introduces itself, anything else nothing
  all_goals simp [ScopeBuilder.patternIdentifiers, patternLeaves, isIdentifier, List.filter]
termination_by structural p

theorem propertyIdentifiers_eq_filter (props : List Node) :
    ScopeBuilder.propertyIdentifiers props = (propertyLeaves props).filter isIdentifier := by
  cases props with
  | nil => rfl
  | cons p props =>
    have hprops := propertyIdentifiers_eq_filter props
    -- a property enters through its value, any other entry is a pattern of its own
    cases p
    case property v _ _ _ _ =>
      simp only [ScopeBuilder.propertyIdentifiers, propertyLeaves, List.filter_append]
      rw [patternIdentifiers_eq_filter v, hprops]
    all_goals
      simp only [ScopeBuilder.propertyIdentifiers, propertyLeaves, List.filter_append]
      rw [patternIdentifiers_eq_filter, hprops]
termination_by structural props

theorem elementIdentifiers_eq_filter (es : List (Option Node)) :
    ScopeBuilder.elementIdentifiers es = (elementLeaves es).filter isIdentifier := by
  cases es with
  | nil => rfl
  | cons e es =>
    cases e with
    | some e =>
      simp only [ScopeBuilder.elementIdentifiers, elementLeaves, List.filter_append]
      rw [patternIdentifiers_eq_filter e, elementIdentifiers_eq_filter es]
    | none =>
      simp only [ScopeBuilder.elementIdentifiers, elementLeaves]
      exact elementIdentifiers_eq_filter es
termination_by structural es

end

/-- A member leaf is not among the identifiers a pattern introduces. -/
theorem not_mem_patternIdentifiers_of_isMember {p m : Node} (hm : m.isMember = true) :
    m ∉ ScopeBuilder.patternIdentifiers p := by
  rw [patternIdentifiers_eq_filter, List.mem_filter]
  rintro ⟨-, hid⟩
  cases m <;> simp_all [isMember, isIdentifier]

end Node

end ScriptGate
