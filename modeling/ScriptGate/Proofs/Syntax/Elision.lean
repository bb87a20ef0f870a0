import Mathlib.Data.List.Chain
import ScriptGate.Syntax.Parser.Shapes
import ScriptGate.Proofs.Pattern

/-!
# Holes of array literals

Between the brackets of an array literal or pattern stand elements and commas.
`elementsOf` reads them with one flag, whether an element may still come
before the next comma: an element is kept, and a comma is a hole unless an
element stands right before it.  Said item by item, each item contributes what
its predecessor alone decides (`elementsOf_eq_flatten_contributions`), for every
list of items.

ECMAScript counts the slots of a literal by its commas.  A comma closes a slot,
so the `k`-th comma ends slot `k - 1`; an element before which `k` commas stand
fills slot `k`; and an element after the last comma opens one slot more, while a
trailing comma adds none.  On every list the grammar reads, where a comma
separates each element from the next (`ArrayItem.Separated`), `elementsOf`
follows that count: its length is the number of commas, plus one when an
element ends the list (`length_elementsOf`), each element stands at the number
of commas before it (`getElem?_elementsOf_of_element`), and every other slot
is a hole (`exists_element_of_getElem?_elementsOf`).
-/

namespace ScriptGate

namespace ArrayItem

/-- Whether an item is an element. -/
def isElement : ArrayItem → Bool
  | element _ => true
  | comma => false

/-- What an item contributes to the elements of an array, given the item before
it (none at the opening bracket): an element stands for itself, a comma for a
hole unless an element stands right before it. -/
def contribution : Option ArrayItem → ArrayItem → List (Option Node)
  | _, element x => [some x]
  | some (element _), comma => []
  | _, comma => [none]

/-- The number of commas among items. -/
def commas (items : List ArrayItem) : Nat := (items.filter (!·.isElement)).length

/-- One slot more when an element ends the items: the element after the last comma. -/
def trailingSlot (items : List ArrayItem) : Nat :=
  if items.getLast?.any isElement then 1 else 0

/-- A comma stands between every two elements, as in every array of the grammar. -/
def Separated (items : List ArrayItem) : Prop :=
  items.IsChain fun a b => ¬(a.isElement ∧ b.isElement)

instance (items : List ArrayItem) : Decidable (Separated items) :=
  inferInstanceAs (Decidable (List.IsChain _ items))

@[simp] theorem commas_nil : commas [] = 0 := rfl

@[simp] theorem commas_comma (rest : List ArrayItem) : commas (comma :: rest) = commas rest + 1 := by
  simp [commas, isElement]

@[simp] theorem commas_element (x : Node) (rest : List ArrayItem) :
    commas (element x :: rest) = commas rest := by
  simp [commas, isElement]

@[simp] theorem trailingSlot_nil : trailingSlot [] = 0 := rfl

/-- A comma in front changes the last item only of an empty list, where it ends the list. -/
theorem trailingSlot_comma (rest : List ArrayItem) : trailingSlot (comma :: rest) = trailingSlot rest := by
  cases rest with
  | nil => rfl
  | cons y ys => simp [trailingSlot, List.getLast?_cons_cons]

theorem trailingSlot_element_comma (x : Node) (rest : List ArrayItem) :
    trailingSlot (element x :: comma :: rest) = trailingSlot rest := by
  rw [← trailingSlot_comma rest]
  simp only [trailingSlot, List.getLast?_cons_cons]

theorem Separated.comma_tail {rest : List ArrayItem} (h : Separated (comma :: rest)) :
    Separated rest :=
  List.IsChain.tail h

theorem Separated.element_tail {x : Node} {rest : List ArrayItem} (h : Separated (element x :: rest)) :
    Separated rest :=
  List.IsChain.tail h

theorem Separated.not_element_element {x y : Node} {rest : List ArrayItem}
    (h : Separated (element x :: element y :: rest)) : False :=
  (List.isChain_cons_cons.1 h).1 ⟨rfl, rfl⟩

end ArrayItem

open ArrayItem

/-! ## The contribution of each item -/

/-- Reading on from a comma or from an element: the flag is whether the item
before was no element. -/
theorem elementsFrom_eq_flatten_contributions (prev : Option ArrayItem) (items : List ArrayItem) :
    elementsFrom (!prev.any isElement) items =
      (List.zipWith contribution (prev :: items.map some) items).flatten := by
  induction items generalizing prev with
  | nil => simp [elementsFrom]
  | cons item rest ih =>
    cases item with
    | element x => simp [elementsFrom, contribution, ← ih (some (element x)), isElement]
    | comma =>
      rcases prev with _ | ⟨_ | y⟩ <;>
        simp [elementsFrom, contribution, ← ih (some comma), isElement]

/-- Every item contributes what the item before it decides: an element itself, a comma
a hole unless it follows an element. -/
theorem elementsOf_eq_flatten_contributions (items : List ArrayItem) :
    elementsOf items = (List.zipWith contribution (none :: items.map some) items).flatten :=
  elementsFrom_eq_flatten_contributions none items

/-! ## Slots counted by commas -/

@[simp] theorem elementsOf_comma (rest : List ArrayItem) :
    elementsOf (comma :: rest) = none :: elementsOf rest := rfl

@[simp] theorem elementsOf_element_comma (x : Node) (rest : List ArrayItem) :
    elementsOf (element x :: comma :: rest) = some x :: elementsOf rest := rfl

@[simp] theorem elementsOf_singleton (x : Node) : elementsOf [element x] = [some x] := rfl

/-- The elements of a separated array are as many as its commas, and one more when an
element ends it. -/
theorem length_elementsOf : ∀ {items : List ArrayItem}, Separated items →
    (elementsOf items).length = commas items + trailingSlot items
  | [], _ => rfl
  | [element x], _ => rfl
  | comma :: rest, h => by
    rw [elementsOf_comma, trailingSlot_comma, List.length_cons, length_elementsOf h.comma_tail,
      commas_comma]
    omega
  | element x :: comma :: rest, h => by
    rw [elementsOf_element_comma, trailingSlot_element_comma, List.length_cons,
      length_elementsOf h.element_tail.comma_tail, commas_element, commas_comma]
    omega
  | element _ :: element _ :: _, h => h.not_element_element.elim

/-- Each element of a separated array stands at the number of commas before it. -/
theorem getElem?_elementsOf_of_element : ∀ {items : List ArrayItem} {i : Nat} {x : Node},
    Separated items → items[i]? = some (element x) →
      (elementsOf items)[commas (items.take i)]? = some (some x)
  | [], _, _, _, hi => by simp at hi
  | [element y], 0, x, _, hi => by simp_all
  | [element y], i + 1, x, _, hi => by simp at hi
  | comma :: rest, 0, x, _, hi => by simp at hi
  | comma :: rest, i + 1, x, h, hi => by
    rw [elementsOf_comma, List.take_succ_cons, commas_comma, List.getElem?_cons_succ]
    exact getElem?_elementsOf_of_element h.comma_tail hi
  | element y :: comma :: rest, 0, x, _, hi => by simp_all
  | element y :: comma :: rest, 1, x, _, hi => by simp at hi
  | element y :: comma :: rest, i + 2, x, h, hi => by
    rw [elementsOf_element_comma, List.take_succ_cons, List.take_succ_cons, commas_element,
      commas_comma, List.getElem?_cons_succ]
    exact getElem?_elementsOf_of_element h.element_tail.comma_tail hi
  | element _ :: element _ :: _, _, _, h, _ => h.not_element_element.elim

/-- A slot of a separated array that holds an element holds one standing after as many
commas as the slot's index: every other slot is a hole. -/
theorem exists_element_of_getElem?_elementsOf : ∀ {items : List ArrayItem} {j : Nat} {x : Node},
    Separated items → (elementsOf items)[j]? = some (some x) →
      ∃ i, items[i]? = some (element x) ∧ commas (items.take i) = j
  | [], _, _, _, hj => by simp [elementsOf, elementsFrom] at hj
  | [element y], j, x, _, hj => by
    cases j with
    | zero => exact ⟨0, by simp_all⟩
    | succ j => simp at hj
  | comma :: rest, 0, x, _, hj => by simp at hj
  | comma :: rest, j + 1, x, h, hj => by
    rw [elementsOf_comma, List.getElem?_cons_succ] at hj
    obtain ⟨i, hi, hc⟩ := exists_element_of_getElem?_elementsOf h.comma_tail hj
    exact ⟨i + 1, by simpa using hi, by simp [hc]⟩
  | element y :: comma :: rest, 0, x, _, hj => by
    refine ⟨0, ?_, rfl⟩
    simp_all
  | element y :: comma :: rest, j + 1, x, h, hj => by
    rw [elementsOf_element_comma, List.getElem?_cons_succ] at hj
    obtain ⟨i, hi, hc⟩ := exists_element_of_getElem?_elementsOf h.element_tail.comma_tail hj
    exact ⟨i + 2, by simpa using hi, by simp [hc]⟩
  | element _ :: element _ :: _, _, _, h, _ => h.not_element_element.elim

/-- The holes of an array follow ECMAScript's elisions.  Item by item, an element stands
for itself and a comma for a hole unless an element stands right before it; so on every
array the grammar reads, the elements are as many as the commas and one more when an
element ends the array, each element stands at the number of commas before it, and every
other slot is a hole. -/
theorem elementsOf_follows_elision (items : List ArrayItem) :
    elementsOf items = (List.zipWith contribution (none :: items.map some) items).flatten ∧
      (Separated items →
        (elementsOf items).length = commas items + trailingSlot items ∧
        (∀ i x, items[i]? = some (element x) →
          (elementsOf items)[commas (items.take i)]? = some (some x)) ∧
        (∀ j x, (elementsOf items)[j]? = some (some x) →
          ∃ i, items[i]? = some (element x) ∧ commas (items.take i) = j)) :=
  ⟨elementsOf_eq_flatten_contributions items, fun h =>
    ⟨length_elementsOf h, fun _ _ hi => getElem?_elementsOf_of_element h hi,
      fun _ _ hj => exists_element_of_getElem?_elementsOf h hj⟩⟩

/-- The items of `[a, , b, ]`: a hole between two elements and a trailing comma. -/
def holeyArrayItems : List ArrayItem :=
  [element (.identifier (.onFirstLine 1 2) "a"), comma, comma,
    element (.identifier (.onFirstLine 6 7) "b"), comma]

/-- `[a, , b, ]` has three slots, `b` in the third. -/
theorem holeyArray_slots : Separated holeyArrayItems ∧
    (elementsOf holeyArrayItems).length = commas holeyArrayItems + trailingSlot holeyArrayItems ∧
    commas holeyArrayItems + trailingSlot holeyArrayItems = 3 ∧
    (elementsOf holeyArrayItems)[commas (holeyArrayItems.take 3)]? =
      some (some (.identifier (.onFirstLine 6 7) "b")) := by
  have hsep : Separated holeyArrayItems := by decide
  obtain ⟨hlen, hindex, -⟩ := (elementsOf_follows_elision holeyArrayItems).2 hsep
  exact ⟨hsep, hlen, by decide, hindex 3 _ rfl⟩

end ScriptGate
