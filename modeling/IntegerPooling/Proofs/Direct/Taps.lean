import IntegerPooling.Direct
import IntegerPooling.Proofs.Axis
import IntegerPooling.Proofs.Layout
import Mathlib.Algebra.Ring.Int.Defs

/-!
# Taps inside the input

A tap of a kernel belongs to a window when its row and its column lie inside the input; padding
has no positions. `tapPositions` lists the input positions that the taps of one window reach, tap
by tap, and `tapElements` the elements of one channel at these positions. What is proved about
single output elements is stated with these lists, in whatever way a kernel collects them.
-/

namespace IntegerPooling

namespace Operator

variable {operator : Operator} {extent : Spatial} {row column : Nat}

/-- The input position of a tap in the window of an output row and column, if there is one. -/
def tapPosition (operator : Operator) (extent : Spatial) (row column rowTap columnTap : Nat) :
    Option (Nat × Nat) :=
  ((operator.vertical extent).coordinate row rowTap).bind fun inputRow =>
    ((operator.horizontal extent).coordinate column columnTap).map fun inputColumn =>
      (inputRow, inputColumn)

/-- The input positions of all taps in the window of an output row and column. -/
def tapPositions (operator : Operator) (extent : Spatial) (row column : Nat) :
    List (Nat × Nat) :=
  (List.range operator.kernel.height).flatMap fun rowTap =>
    (List.range operator.kernel.width).filterMap fun columnTap =>
      operator.tapPosition extent row column rowTap columnTap

/-- The elements of a channel of an image at the taps of a window. -/
def tapElements {t : ElementType} (operator : Operator) (layout : Layout)
    (source : List (Element t)) (image channel row column : Nat) : List (Element t) :=
  (operator.tapPositions layout.extent row column).map fun position =>
    source.getD (layout.place image channel position.1 position.2) (Element.lowest t)

/-- The sum of the elements of a window, however large. -/
def tapSum {t : ElementType} (operator : Operator) (layout : Layout) (source : List (Element t))
    (image channel row column : Nat) : Int :=
  ((operator.tapElements layout source image channel row column).map Element.val).sum

/-- The number that the sum of a window is divided by. -/
def divisor (operator : Operator) (extent : Spatial) (row column : Nat) : Nat :=
  match operator.algorithm with
  | .averageExcludingPadding => (operator.tapPositions extent row column).length
  | .averageIncludingPadding => operator.kernel.height * operator.kernel.width
  | .maximum => operator.kernel.height * operator.kernel.width

/-- The taps of one row of the kernel lie in one row of the input, or all of them outside. -/
theorem filterMap_tapPosition (operator : Operator) (extent : Spatial)
    (row column rowTap : Nat) :
    ((List.range operator.kernel.width).filterMap fun columnTap =>
        operator.tapPosition extent row column rowTap columnTap) =
      ((operator.vertical extent).coordinate row rowTap).toList.flatMap fun inputRow =>
        ((List.range operator.kernel.width).filterMap
          ((operator.horizontal extent).coordinate column)).map fun inputColumn =>
            (inputRow, inputColumn) := by
  unfold tapPosition
  cases (operator.vertical extent).coordinate row rowTap with
  | none => simp
  | some inputRow => simp [List.map_filterMap]

/-- The taps reach the positions of the clipped window, row by row. -/
theorem tapPositions_eq (operator : Operator) (extent : Spatial) (row column : Nat) :
    operator.tapPositions extent row column =
      (List.range' ((operator.vertical extent).clipped row).start
          ((operator.vertical extent).clipped row).count).flatMap fun inputRow =>
        (List.range' ((operator.horizontal extent).clipped column).start
          ((operator.horizontal extent).clipped column).count).map fun inputColumn =>
            (inputRow, inputColumn) := by
  simp only [tapPositions, filterMap_tapPosition]
  rw [← List.flatMap_assoc, ← List.filterMap_eq_flatMap_toList]
  exact congrArg₂ (fun rows columns => rows.flatMap fun inputRow =>
      columns.map fun inputColumn => (inputRow, inputColumn))
    ((operator.vertical extent).filterMap_coordinate row)
    ((operator.horizontal extent).filterMap_coordinate column)

/-- No tap reaches a position outside the input. -/
theorem inside_of_mem_tapPositions {position : Nat × Nat}
    (reached : position ∈ operator.tapPositions extent row column) :
    position.1 < extent.height ∧ position.2 < extent.width := by
  rcases List.mem_flatMap.mp reached with ⟨rowTap, _, inRow⟩
  rcases List.mem_filterMap.mp inRow with ⟨columnTap, _, found⟩
  rcases Option.bind_eq_some_iff.mp found with ⟨inputRow, rowFound, columnsFound⟩
  rcases Option.map_eq_some_iff.mp columnsFound with ⟨inputColumn, columnFound, rfl⟩
  exact ⟨Axis.lt_extent_of_coordinate rowFound, Axis.lt_extent_of_coordinate columnFound⟩

theorem length_tapPositions (operator : Operator) (extent : Spatial) (row column : Nat) :
    (operator.tapPositions extent row column).length =
      ((operator.vertical extent).clipped row).count *
        ((operator.horizontal extent).clipped column).count := by
  simp [tapPositions_eq, List.length_flatMap]

/-- A window has at most as many positions as the kernel. -/
theorem length_tapPositions_le (operator : Operator) (extent : Spatial) (row column : Nat) :
    (operator.tapPositions extent row column).length ≤
      operator.kernel.height * operator.kernel.width := by
  rw [length_tapPositions]
  exact Nat.mul_le_mul (Axis.count_clip_le _ _ _) (Axis.count_clip_le _ _ _)

end Operator

end IntegerPooling
