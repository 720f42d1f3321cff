import IntegerPooling.Proofs.Direct.Taps
import Mathlib.Algebra.Order.BigOperators.Group.List

/-!
# Sums of windows

The exact sum of a window lies between the number of its elements times any two bounds of them
(`tapSum_between`). Elements of eight bits are at most 255 in size, so the sum of a window with at
most 8421504 of them always fits 32 bits (`sumFits_of_few`), and sources that are ordered element by
element have windows that are ordered in the same way (`tapElements_ordered`).
-/

namespace IntegerPooling

namespace Element

variable {t : ElementType}

/-- Whether the elements of one list are at most those of another of the same length. -/
def Ordered (smaller larger : List (Element t)) : Prop :=
  List.Forall₂ (fun left right => left.val ≤ right.val) smaller larger

theorem Ordered.getD {smaller larger : List (Element t)} (ordered : Ordered smaller larger)
    (place : Nat) (fallback : Element t) :
    (smaller.getD place fallback).val ≤ (larger.getD place fallback).val := by
  induction ordered generalizing place with
  | nil => exact Int.le_refl _
  | cons first _ ih =>
    cases place with
    | zero => exact first
    | succ place => exact ih place

theorem Ordered.sum_le {smaller larger : List (Element t)} (ordered : Ordered smaller larger) :
    (smaller.map val).sum ≤ (larger.map val).sum := by
  induction ordered with
  | nil => exact Int.le_refl _
  | cons first _ ih =>
    rw [List.map_cons, List.sum_cons, List.map_cons, List.sum_cons]
    exact Int.add_le_add first ih

/-- Elements of eight bits lie between -128 and 255. -/
theorem bounds_of_narrow (narrow : t ≠ .s32) (element : Element t) :
    -128 ≤ element.val ∧ element.val ≤ 255 := by
  have lower := element.lowest_le
  have upper := element.le_highest
  cases t with
  | s8 => exact ⟨lower, Int.le_trans upper (by decide)⟩
  | u8 => exact ⟨Int.le_trans (by decide) lower, upper⟩
  | s32 => exact absurd rfl narrow

end Element

namespace Operator

variable {t : ElementType} {operator : Operator} {layout : Layout} {source : List (Element t)}
  {image channel row column : Nat}

/-- Whether the exact sum of a window fits 32 bits. -/
def SumFits (operator : Operator) (layout : Layout) (source : List (Element t))
    (image channel row column : Nat) : Prop :=
  ElementType.s32.lowest ≤ operator.tapSum layout source image channel row column ∧
    operator.tapSum layout source image channel row column ≤ ElementType.s32.highest

theorem tapElements_ordered {smaller larger : List (Element t)}
    (ordered : Element.Ordered smaller larger) :
    Element.Ordered (operator.tapElements layout smaller image channel row column)
      (operator.tapElements layout larger image channel row column) := by
  rw [Element.Ordered, tapElements, tapElements, List.forall₂_map_left_iff,
    List.forall₂_map_right_iff, List.forall₂_same]
  intro position _
  exact ordered.getD _ _

theorem tapSum_between {low high : Int}
    (lower : ∀ element ∈ operator.tapElements layout source image channel row column,
      low ≤ element.val)
    (upper : ∀ element ∈ operator.tapElements layout source image channel row column,
      element.val ≤ high) :
    (operator.tapPositions layout.extent row column).length * low ≤
        operator.tapSum layout source image channel row column ∧
      operator.tapSum layout source image channel row column ≤
        (operator.tapPositions layout.extent row column).length * high := by
  have counted : ((operator.tapElements layout source image channel row column).map
      Element.val).length = (operator.tapPositions layout.extent row column).length := by
    rw [List.length_map, tapElements, List.length_map]
  rw [← counted, ← nsmul_eq_mul, ← nsmul_eq_mul]
  constructor
  · apply List.card_nsmul_le_sum
    exact List.forall_mem_map.mpr lower
  · apply List.sum_le_card_nsmul
    exact List.forall_mem_map.mpr upper

/-- The sum of a window of few elements of eight bits always fits. -/
theorem sumFits_of_few (narrow : t ≠ .s32)
    (few : (operator.tapPositions layout.extent row column).length ≤ 8421504) :
    operator.SumFits layout source image channel row column := by
  have between : _ ∧ _ := @tapSum_between t operator layout source image channel row column (-128)
    255 (fun element _ => (element.bounds_of_narrow narrow).1)
    (fun element _ => (element.bounds_of_narrow narrow).2)
  rw [SumFits, ElementType.lowest, ElementType.highest]
  omega

end Operator

end IntegerPooling
