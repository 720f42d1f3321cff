import IntegerPooling.Axis
import IntegerPooling.Proofs.Outcome
import IntegerPooling.Proofs.Sequence

/-!
# Windows along one axis

A window is clipped once, with subtractions that stop at zero, where the definition of pooling
tests every tap on its own. Both find the same input positions (`filterMap_coordinate`): the taps
inside the input are neighbours (`tapsInside_eq`) and reach them in order (`map_tapsInside`). On an
axis on which both paddings are smaller than the kernel, every place of the kernel can be computed
and keeps at least one position of the input (`span_of_lt_places`).
-/

namespace IntegerPooling

namespace Axis

def padded (axis : Axis) (after : Nat) : Nat :=
  axis.extent + axis.before + after

/-- The number of places of the kernel, however large. -/
def places (axis : Axis) (after : Nat) : Nat :=
  if axis.padded after < axis.kernel ∨ axis.stride = 0 then 0
  else (axis.padded after - axis.kernel) / axis.stride + 1

/-- The input position of a tap of the kernel at a place, if it lies inside the input. -/
def coordinate (axis : Axis) (index tap : Nat) : Option Nat :=
  if axis.before ≤ index * axis.stride + tap ∧
      index * axis.stride + tap < axis.extent + axis.before then
    some (index * axis.stride + tap - axis.before)
  else none

/-- The taps of the kernel at a place that lie inside the input. -/
def tapsInside (axis : Axis) (index : Nat) : List Nat :=
  (List.range axis.kernel).filter fun tap =>
    axis.before ≤ index * axis.stride + tap ∧
      index * axis.stride + tap < axis.before + axis.extent

/-- The clipped window of the kernel at a place. -/
def clipped (axis : Axis) (index : Nat) : Span :=
  axis.clip (index * axis.stride) (axis.extent + axis.before)

/-- The conditions under which windows can be placed along an axis. -/
structure Proper (axis : Axis) (after : Nat) : Prop where
  extent_pos : 0 < axis.extent
  kernel_pos : 0 < axis.kernel
  stride_pos : 0 < axis.stride
  before_lt : axis.before < axis.kernel
  after_lt : after < axis.kernel

theorem positions_of_padded_lt {axis : Axis} {after : Nat} (kernelPos : 0 < axis.kernel)
    (fits : axis.padded after < Size.limit) : axis.positions after = .ok (axis.places after) := by
  have firstFits : axis.extent + axis.before < Size.limit := by
    rw [padded] at fits
    omega
  rw [positions, Size.add_of_lt firstFits]
  rw [Outcome.ok_bind, Size.add_of_lt fits, Outcome.ok_bind, places, padded]
  split
  · rfl
  · have quotientLe := Nat.div_le_self (axis.extent + axis.before + after - axis.kernel) axis.stride
    rw [padded] at fits
    exact Size.add_of_lt (by omega)

theorem positions_of_le_padded {axis : Axis} {after : Nat}
    (overflows : Size.limit ≤ axis.padded after) :
    axis.positions after = .error (.overflow .add) := by
  rw [positions]
  by_cases firstFits : axis.extent + axis.before < Size.limit
  · rw [Size.add_of_lt firstFits]
    rw [Outcome.ok_bind, Size.add_of_le overflows, Outcome.error_bind]
  · rw [Size.add_of_le (Nat.le_of_not_lt firstFits), Outcome.error_bind]

/-- Every place of the kernel lies in the padded extent. -/
theorem mul_add_kernel_le {axis : Axis} {after index : Nat} (indexLt : index < axis.places after) :
    index * axis.stride + axis.kernel ≤ axis.padded after := by
  rw [places] at indexLt
  split at indexLt
  · omega
  · rename_i fits
    rw [not_or, Nat.not_lt] at fits
    have indexLe : index ≤ (axis.padded after - axis.kernel) / axis.stride := by omega
    have steps := Nat.mul_le_mul_right axis.stride indexLe
    have covered := Nat.div_mul_le_self (axis.padded after - axis.kernel) axis.stride
    omega

theorem span_eq_ok_iff {axis : Axis} {index : Nat} {span : Span} :
    axis.span index = .ok span ↔
      index * axis.stride < Size.limit ∧ axis.extent + axis.before < Size.limit ∧
        axis.clipped index = span := by
  rw [Axis.span]
  simp only [Outcome.bind_eq_ok_iff, Size.mul_eq_ok_iff, Size.add_eq_ok_iff, and_assoc,
    exists_eq_left', clipped]
  constructor
  · rintro ⟨positionFits, endFits, same⟩
    cases same
    exact ⟨positionFits, endFits, rfl⟩
  · rintro ⟨positionFits, endFits, rfl⟩
    exact ⟨positionFits, endFits, rfl⟩

theorem count_clipped_pos {axis : Axis} {after index : Nat} (proper : axis.Proper after)
    (indexLt : index < axis.places after) : 0 < (axis.clipped index).count := by
  have inPadded := mul_add_kernel_le indexLt
  rcases proper with ⟨extentPos, kernelPos, stridePos, beforeLt, afterLt⟩
  simp only [clipped, clip, padded] at inPadded ⊢
  omega

theorem span_of_lt_places {axis : Axis} {after index : Nat}
    (fits : axis.padded after < Size.limit) (indexLt : index < axis.places after) :
    axis.span index = .ok (axis.clipped index) := by
  have inPadded := mul_add_kernel_le indexLt
  apply span_eq_ok_iff.mpr
  rw [padded] at inPadded fits
  refine ⟨?_, ?_, rfl⟩ <;> omega

theorem lt_extent_of_coordinate {axis : Axis} {index tap position : Nat}
    (found : axis.coordinate index tap = some position) : position < axis.extent := by
  unfold coordinate at found
  split at found
  · cases found
    omega
  · cases found

/-- The taps inside the input are neighbours, as many as the clipped window has positions. -/
theorem tapsInside_eq (axis : Axis) (index : Nat) :
    axis.tapsInside index =
      List.range' (axis.before - index * axis.stride) (axis.clipped index).count := by
  have bounds := Sequence.filter_range_between (axis.before - index * axis.stride)
    (axis.extent + axis.before - index * axis.stride) axis.kernel
  rw [clipped, clip, ← bounds, tapsInside]
  apply List.filter_congr
  intro tap _
  apply decide_eq_decide.mpr
  omega

/-- The taps inside the input reach the positions of the clipped window in their order. -/
theorem map_tapsInside (axis : Axis) (index : Nat) :
    (axis.tapsInside index).map (fun tap => index * axis.stride + tap - axis.before) =
      List.range' (axis.clipped index).start (axis.clipped index).count := by
  rw [tapsInside_eq]
  apply List.ext_getElem
  · simp
  · intro step stepLt _
    simp only [List.length_map, List.length_range'] at stepLt
    simp only [List.getElem_map, List.getElem_range', clipped, clip] at stepLt ⊢
    omega

/-- Skipping the taps outside the input leaves exactly the positions of the clipped window. -/
theorem filterMap_coordinate (axis : Axis) (index : Nat) :
    (List.range axis.kernel).filterMap (axis.coordinate index) =
      List.range' (axis.clipped index).start (axis.clipped index).count := by
  rw [← map_tapsInside, tapsInside, ← List.filterMap_eq_map, List.filterMap_filter]
  congr 1
  funext tap
  unfold coordinate
  split <;> rename_i inside <;> simp [inside, Nat.add_comm axis.before]

end Axis

end IntegerPooling
