import ScriptGate.Proofs.OptionalChain.Erase
import ScriptGate.Style.Rules

/-!
# Callbacks that could be arrows

`prefer-arrow-callback` reports a function expression passed to a call or a `new` when an
arrow could stand for it: it is no generator, nothing refers to its own name, and nothing
below it uses the `this`, `super` or `arguments` it binds.  Which nodes below a function see
its `this` is decided by the nodes in between: an arrow passes its `this` on, and a function
that is not an arrow binds its own.  The rule's walk (`Style.lexicalNodes`) enters every
node but those functions, so it reaches exactly what `Node.ReachedBelow Node.enteredChildren`
describes (`Style.mem_lexicalNodes_iff`).  The rule then reports exactly the callbacks below
which no node so reached uses `this`, `super` or a free `arguments`
(`Style.preferArrowCallback_findings`).

ECMAScript gives two more nodes a `this` of their own.  The value of a class field is
evaluated with the instance as `this`, and a static block with the class
(`Node.thisChildren`).  The walk enters both, so a callback is not reported when its only
`this` stands in a field initializer of a class declared inside it, though it uses no `this`
of its own (`Style.fieldThis_callback_unreported`).
-/

namespace ScriptGate

namespace Node

/-- Whether a node binds a `this` of its own for what is below it: a function that is not
an arrow. -/
def bindsThis (n : Node) : Bool :=
  n.isFunction && !(match n with
    | .arrowFunctionExpression .. => true
    | _ => false)

/-- The children the walk of `prefer-arrow-callback` goes on into: all of them, below any
node but a function that binds its own `this`. -/
def enteredChildren (n : Node) : List (Node × Bool) :=
  if n.bindsThis then [] else n.spelledChildren

/-- The children that share a node's `this`, by ECMAScript's rules.  A function that binds
its own has none, and neither has a class static block, whose `this` is the class.  Of a
class field only the key shares it, since the value is evaluated with the instance as
`this`.  Every child of any other node shares it. -/
def thisChildren (n : Node) : List (Node × Bool) :=
  match n with
  | .propertyDefinition _ k computed _ _ => [(k, !computed)]
  | .staticBlock .. => []
  | _ => n.enteredChildren

/-- `p` is reached below `f` through `next`: it is a child of `f`, or one that `next` gives
of a node reached. -/
inductive ReachedBelow (next : Node → List (Node × Bool)) (f : Node) : Node × Bool → Prop
  | child {p : Node × Bool} : p ∈ f.spelledChildren → ReachedBelow next f p
  | descend {c : Node} {spelled : Bool} {p : Node × Bool} :
      ReachedBelow next f (c, spelled) → p ∈ next c → ReachedBelow next f p

namespace ReachedBelow

variable {next : Node → List (Node × Bool)} {f : Node}

/-- Below a reached node whose children are all entered, what is reached from it is reached
from `f`. -/
theorem trans {c : Node} {spelled : Bool} {p : Node × Bool}
    (hc : ReachedBelow next f (c, spelled)) (hnext : next c = c.spelledChildren)
    (h : ReachedBelow next c p) : ReachedBelow next f p := by
  induction h with
  | child hp => exact .descend hc (hnext ▸ hp)
  | descend _ hp ih => exact .descend ih hp

/-- What is reached stays in a set that holds the children of `f` and everything `next`
gives of its members. -/
theorem mem_of_closed {S : List (Node × Bool)} (hroot : ∀ p ∈ f.spelledChildren, p ∈ S)
    (hclosed : ∀ q ∈ S, ∀ p ∈ next q.1, p ∈ S) {p : Node × Bool}
    (h : ReachedBelow next f p) : p ∈ S := by
  induction h with
  | child hp => exact hroot _ hp
  | descend _ hp ih => exact hclosed _ ih _ hp

end ReachedBelow

/-- The arguments of a call or a `new`. -/
def callArguments : Node → List Node
  | .callExpression _ _ args _ | .newExpression _ _ args => args
  | _ => []

end Node

namespace Style

/-! ## The walk below a callback -/

theorem lexicalNodes_eq (n : Node) :
    lexicalNodes n = n.spelledChildren.flatMap fun p =>
      p :: (if p.1.bindsThis then [] else lexicalNodes p.1) := by
  have hattach : (n.spelledChildren.attach.flatMap fun x =>
      x.1 :: (if x.1.1.bindsThis then [] else lexicalNodes x.1.1)) =
      n.spelledChildren.flatMap fun p => p :: (if p.1.bindsThis then [] else lexicalNodes p.1) := by
    rw [@List.flatMap_subtype _ _ _ _ _
      (fun p => p :: (if p.1.bindsThis then [] else lexicalNodes p.1)) fun _ _ => rfl,
      List.unattach_attach]
  rw [← hattach, lexicalNodes]
  congr 1
  funext ⟨⟨c, spelled⟩, _⟩
  cases c <;> rfl

theorem mem_lexicalNodes {n : Node} {p : Node × Bool} :
    p ∈ lexicalNodes n ↔ ∃ c spelled, (c, spelled) ∈ n.spelledChildren ∧
      (p = (c, spelled) ∨ (c.bindsThis = false ∧ p ∈ lexicalNodes c)) := by
  rw [lexicalNodes_eq]
  simp only [List.mem_flatMap, List.mem_cons, Prod.exists]
  refine exists_congr fun c => exists_congr fun spelled => and_congr_right fun _ => ?_
  cases c.bindsThis <;> simp

/-- Below a node the walk reaches and enters, all it reaches is reached from the top. -/
theorem lexicalNodes_closed {f c : Node} {spelled : Bool} (hc : (c, spelled) ∈ lexicalNodes f)
    (hbinds : c.bindsThis = false) {q : Node × Bool} (hq : q ∈ lexicalNodes c) :
    q ∈ lexicalNodes f := by
  obtain ⟨d, s, hd, heq | ⟨hdbinds, hin⟩⟩ := mem_lexicalNodes.1 hc
  · cases heq
    exact mem_lexicalNodes.2 ⟨c, spelled, hd, .inr ⟨hbinds, hq⟩⟩
  · have := Node.sizeOf_lt_of_mem_children (Node.mem_children_of_mem_spelledChildren hd)
    exact mem_lexicalNodes.2 ⟨d, s, hd, .inr ⟨hdbinds, lexicalNodes_closed hin hbinds hq⟩⟩
termination_by sizeOf f

theorem reachedBelow_of_mem_lexicalNodes {f : Node} {p : Node × Bool} (h : p ∈ lexicalNodes f) :
    Node.ReachedBelow Node.enteredChildren f p := by
  obtain ⟨c, spelled, hc, rfl | ⟨hbinds, hp⟩⟩ := mem_lexicalNodes.1 h
  · exact .child hc
  · have := Node.sizeOf_lt_of_mem_children (Node.mem_children_of_mem_spelledChildren hc)
    exact (Node.ReachedBelow.child hc).trans (by simp [Node.enteredChildren, hbinds])
      (reachedBelow_of_mem_lexicalNodes hp)
termination_by sizeOf f

/-- The walk of `prefer-arrow-callback` reaches below a function exactly what is reached
through the children it enters: everything but the inside of functions that bind their own
`this`. -/
theorem mem_lexicalNodes_iff {f : Node} {p : Node × Bool} :
    p ∈ lexicalNodes f ↔ Node.ReachedBelow Node.enteredChildren f p := by
  refine ⟨reachedBelow_of_mem_lexicalNodes, fun h => ?_⟩
  induction h with
  | child hp => exact mem_lexicalNodes.2 ⟨_, _, hp, .inl rfl⟩
  | @descend c spelled p _ hp ih =>
    -- a node whose children are entered does not bind `this`, and its children are walked
    unfold Node.enteredChildren at hp
    split at hp
    case isTrue => cases hp
    case isFalse hbinds =>
      exact lexicalNodes_closed ih (by simpa using hbinds) (mem_lexicalNodes.2 ⟨_, _, hp, .inl rfl⟩)

/-! ## Callbacks the rule reports -/

/-- Whether a node reached below a function, with whether it spells a name, uses the
function's own `this`, `super` or `arguments`: it is `this`, `super`, or the free name
`arguments` in a place of use. -/
def Subject.usesThis (s : Subject) (p : Node × Bool) : Bool :=
  match p.1 with
  | .thisExpression _ | .superExpression _ => true
  | _ => !p.2 && s.isFree p.1 "arguments"

/-- Something refers to the name a function expression declares for itself. -/
def Subject.NamesItself (s : Subject) (ident : Option Node) : Prop :=
  ∃ i key, ident = some i ∧ s.arena.declaredAt i.span.start.offset = some key ∧
    s.arena.referencesOf key ≠ []

/-- The finding for a callback that could be an arrow. -/
def callbackFinding (f : Node) : Finding :=
  { message := "Unexpected function expression.", span := f.span,
    hint := some "Use an arrow function: (x) => ..." }

/-- The rule's test of each node reached is the negation of `usesThis`. -/
theorem Subject.reachedTest_iff (s : Subject) (p : Node × Bool) :
    (match p.fst with
      | .thisExpression _ => false
      | .superExpression _ => false
      | _ => p.snd || !s.isFree p.fst "arguments") = true ↔ s.usesThis p = false := by
  obtain ⟨n, spelled⟩ := p
  cases spelled <;> cases n <;> simp [Subject.usesThis]

/-- The rule's test of a function expression's own name fails exactly when nothing refers to
that name. -/
theorem Subject.selfNameTest_iff (s : Subject) (ident : Option Node) :
    (match ident with
      | some i =>
        match s.arena.declaredAt i.span.start.offset with
        | some key => !(s.arena.referencesOf key).isEmpty
        | none => false
      | none => false) = false ↔ ¬ s.NamesItself ident := by
  constructor
  · rintro h ⟨i, key, rfl, hkey, hrefs⟩
    simp [hkey, hrefs] at h
  · intro h
    cases ident with
    | none => rfl
    | some i =>
      cases hkey : s.arena.declaredAt i.span.start.offset with
      | none => simp [hkey]
      | some key =>
        cases hrefs : s.arena.referencesOf key with
        | nil => simp [hkey, hrefs]
        | cons r rs => exact absurd ⟨i, key, rfl, hkey, by simp [hrefs]⟩ h

/-- A function expression could be an arrow exactly when it is no generator, nothing refers
to its own name, and nothing the walk reaches below it uses `this`, `super` or a free
`arguments`. -/
theorem Subject.convertible_iff (s : Subject) (f : Node) :
    s.convertible f = true ↔ ∃ sp ident params body isAsync,
      f = .functionExpression sp ident params body false isAsync ∧ ¬ s.NamesItself ident ∧
        ∀ p, Node.ReachedBelow Node.enteredChildren f p → s.usesThis p = false := by
  cases f
  case functionExpression sp ident params body generator isAsync =>
    simp only [Subject.convertible, Bool.and_eq_true, Bool.not_eq_true', List.all_eq_true,
      Node.functionExpression.injEq]
    constructor
    · rintro ⟨⟨hgen, hself⟩, hall⟩
      exact ⟨sp, ident, params, body, isAsync, ⟨rfl, rfl, rfl, rfl, hgen, rfl⟩,
        (s.selfNameTest_iff ident).1 hself,
        fun p hp => (s.reachedTest_iff p).1 (hall p (mem_lexicalNodes_iff.2 hp))⟩
    · rintro ⟨_, _, _, _, _, ⟨rfl, rfl, rfl, rfl, rfl, rfl⟩, hself, hall⟩
      exact ⟨⟨rfl, (s.selfNameTest_iff ident).2 hself⟩,
        fun p hp => (s.reachedTest_iff p).2 (hall p (mem_lexicalNodes_iff.1 hp))⟩
  all_goals simp [Subject.convertible]

/-- The findings of `prefer-arrow-callback` are, in order, one for each argument of a call or a
`new` that could be an arrow. -/
theorem preferArrowCallback_eq (s : Subject) (options : List Value) :
    preferArrowCallback s options = .ok ((s.nodes.flatMap Node.callArguments).filterMap fun a =>
      if s.convertible a then some (callbackFinding a) else none) := by
  unfold preferArrowCallback
  rw [List.filterMap_flatMap]
  congr 2
  funext n
  -- only calls and `new`s have arguments, and only function expressions can be arrows
  cases n
  case callExpression | newExpression =>
    dsimp only [Node.callArguments]
    congr 1
    funext a
    cases a <;> simp [Subject.convertible, callbackFinding, Node.span]
  all_goals rfl

/-- `prefer-arrow-callback` reports, in order, the arguments of calls and `new`s that could be
arrows: function expressions that are no generators, whose own name nothing refers to, and
below which nothing the walk reaches uses `this`, `super` or a free `arguments`. -/
theorem preferArrowCallback_findings (s : Subject) (options : List Value) :
    preferArrowCallback s options =
      .ok (((s.nodes.flatMap Node.callArguments).filter s.convertible).map callbackFinding) ∧
    ∀ f, s.convertible f = true ↔ ∃ sp ident params body isAsync,
      f = .functionExpression sp ident params body false isAsync ∧ ¬ s.NamesItself ident ∧
        ∀ p, Node.ReachedBelow Node.enteredChildren f p → s.usesThis p = false := by
  refine ⟨?_, s.convertible_iff⟩
  rw [preferArrowCallback_eq, ← List.filterMap_eq_map, List.filterMap_filter]
  rfl

/-! ## A callback whose only `this` is a field's -/

/-- The field of `f(function () { class A { x = this; } });`. -/
def fieldThisField : Node :=
  .propertyDefinition (.onFirstLine 26 35) (.identifier (.onFirstLine 26 27) "x") false
    (some (.thisExpression (.onFirstLine 30 34))) false

/-- The class of `f(function () { class A { x = this; } });`. -/
def fieldThisClass : Node :=
  .classDeclaration (.onFirstLine 16 37) (some (.identifier (.onFirstLine 22 23) "A")) none
    (.classBody (.onFirstLine 24 37) [fieldThisField])

/-- The function expression of `f(function () { class A { x = this; } });`. -/
def fieldThisCallback : Node :=
  .functionExpression (.onFirstLine 2 39) none []
    (.blockStatement (.onFirstLine 14 39) [fieldThisClass]) false false

/-- The program `f(function () { class A { x = this; } });`. -/
def fieldThisProgram : Node :=
  .program (.onFirstLine 0 41) [
    .expressionStatement (.onFirstLine 0 41)
      (.callExpression (.onFirstLine 0 40) (.identifier (.onFirstLine 0 1) "f")
        [fieldThisCallback] false)] false

/-- A callback whose only `this` is the value of a field of a class declared inside it is not
reported: that `this` is the instance's, yet the walk goes into the field's value. -/
theorem fieldThis_callback_unreported :
    fieldThisCallback ∈ fieldThisProgram.nodes.flatMap Node.callArguments ∧
    (∀ p, Node.ReachedBelow Node.thisChildren fieldThisCallback p →
      (Subject.ofProgram fieldThisProgram).usesThis p = false) ∧
    preferArrowCallback (Subject.ofProgram fieldThisProgram) [] = .ok [] := by
  have hargs : fieldThisProgram.nodes.flatMap Node.callArguments = [fieldThisCallback] := by
    simp [fieldThisProgram, fieldThisCallback, fieldThisClass, fieldThisField, Node.nodes_eq,
      Node.children, Node.callArguments]
  -- the walk goes from the callback through its block, the class and its body into the field,
  -- and reaches the `this` of the field's value
  have hreached : Node.ReachedBelow Node.enteredChildren fieldThisCallback
      (.thisExpression (.onFirstLine 30 34), false) :=
    .descend (.descend (.descend (.descend (.child List.mem_cons_self) List.mem_cons_self)
      (List.mem_cons_of_mem _ List.mem_cons_self)) List.mem_cons_self)
      (List.mem_cons_of_mem _ List.mem_cons_self)
  have hunconvertible :
      (Subject.ofProgram fieldThisProgram).convertible fieldThisCallback = false := by
    cases h : (Subject.ofProgram fieldThisProgram).convertible fieldThisCallback
    · rfl
    · obtain ⟨_, _, _, _, _, _, _, hall⟩ := (Subject.convertible_iff _ _).1 h
      exact absurd (hall _ hreached) (by simp [Subject.usesThis])
  refine ⟨by simp [hargs], fun p hp => ?_, ?_⟩
  · -- what shares the callback's `this` is its block, the class, its name and body, the field
    -- and the field's key
    have hS : p ∈ [(.blockStatement (.onFirstLine 14 39) [fieldThisClass], false),
        (fieldThisClass, false), (.identifier (.onFirstLine 22 23) "A", false),
        (.classBody (.onFirstLine 24 37) [fieldThisField], false), (fieldThisField, false),
        (.identifier (.onFirstLine 26 27) "x", true)] := by
      refine Node.ReachedBelow.mem_of_closed ?_ ?_ hp
      · simp [fieldThisCallback, Node.spelledChildren, Node.children]
      · intro q hq c hc
        simp only [List.mem_cons, List.not_mem_nil, or_false] at hq
        rcases hq with rfl | rfl | rfl | rfl | rfl | rfl <;>
          simp [Node.thisChildren, Node.enteredChildren, Node.bindsThis, Node.isFunction,
            Node.spelledChildren, Node.children, fieldThisClass, fieldThisField] at hc <;>
          rcases hc with rfl | rfl <;> simp [fieldThisClass, fieldThisField]
    simp only [List.mem_cons, List.not_mem_nil, or_false] at hS
    rcases hS with rfl | rfl | rfl | rfl | rfl | rfl <;>
      simp [Subject.usesThis, Subject.isFree, fieldThisClass, fieldThisField]
  · rw [preferArrowCallback_eq,
      show (Subject.ofProgram fieldThisProgram).nodes = fieldThisProgram.nodes from rfl, hargs]
    simp [hunconvertible]

end Style

end ScriptGate
