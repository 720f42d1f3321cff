import IntegerPooling.Proofs.Kernel.Assembly
import IntegerPooling.Proofs.Kernel.Call

/-!
# Plans of built kernels

The checks of a plan make its windows fit: every pixel of the output has a window with a position
inside the input, and all numbers of its call fit a machine word once the two buffers have their
sizes (`callable_of_sound`). The divisor is the exception. A window never has more positions than
the input, but the size of the kernel is multiplied out without a check, and a large padding
allows a large kernel.
-/

namespace IntegerPooling

namespace Plan

/-- What a plan satisfies that was made for an operator. -/
structure Sound (plan : Plan) (operator : Operator) : Prop where
  algorithm_eq : plan.algorithm = operator.algorithm
  kernel_eq : plan.kernel = operator.kernel
  vertical_eq : plan.vertical = operator.vertical plan.input
  horizontal_eq : plan.horizontal = operator.horizontal plan.input
  channels_pos : 0 < plan.channels
  vertical : plan.vertical.Proper operator.after.height
  horizontal : plan.horizontal.Proper operator.after.width
  height_fits : plan.vertical.padded operator.after.height < Size.limit
  width_fits : plan.horizontal.padded operator.after.width < Size.limit
  output_eq : plan.output =
    ⟨plan.vertical.places operator.after.height, plan.horizontal.places operator.after.width⟩

variable {plan : Plan} {operator : Operator}

/-- The layouts of a plan whose bytes can be counted. -/
structure Sized (plan : Plan) : Prop where
  source : ¬plan.sourceLayout.Oversized
  destination : ¬plan.destinationLayout.Oversized

theorem sized_of_byteSize {sourceBytes destinationBytes : Nat}
    (source : plan.sourceLayout.byteSize = .ok sourceBytes)
    (destination : plan.destinationLayout.byteSize = .ok destinationBytes) : plan.Sized :=
  ⟨(Layout.byteSize_eq_ok_iff.mp source).1, (Layout.byteSize_eq_ok_iff.mp destination).1⟩

/-- Every pixel of a sound plan has a window with a position inside the input. -/
theorem window_of_sound (sound : plan.Sound operator) {pixel : Pixel}
    (rowLt : pixel.row < plan.output.height) (columnLt : pixel.column < plan.output.width) :
    plan.window pixel.row pixel.column = .ok (plan.clippedWindow pixel) ∧
      0 < (plan.clippedWindow pixel).rows.count ∧ 0 < (plan.clippedWindow pixel).columns.count := by
  rw [sound.output_eq] at rowLt columnLt
  refine ⟨window_eq_ok_iff.mpr ⟨?_, ?_⟩, ?_, ?_⟩
  · exact Axis.span_of_lt_places sound.height_fits rowLt
  · exact Axis.span_of_lt_places sound.width_fits columnLt
  · exact Axis.count_clipped_pos sound.vertical rowLt
  · exact Axis.count_clipped_pos sound.horizontal columnLt

/-- Every pixel of a sound plan can be called unless its divisor is too large. -/
theorem callable_of_sound (sound : plan.Sound operator) (sized : plan.Sized) {pixel : Pixel}
    (within : pixel.Within plan.batch plan.output.height plan.output.width) :
    plan.Callable pixel := by
  rcases within with ⟨imageLt, rowLt, columnLt⟩
  rcases window_of_sound sound rowLt columnLt with ⟨windowEq, rowsPos, columnsPos⟩
  have rowsInside := Axis.start_add_count_clip_le rowsPos
  have columnsInside := Axis.start_add_count_clip_le columnsPos
  have first : plan.sourceLayout.Contains pixel.image 0 (plan.clippedWindow pixel).rows.start
      (plan.clippedWindow pixel).columns.start := {
    image_lt := imageLt
    channel_lt := sound.channels_pos
    row_lt := Nat.lt_of_lt_of_le (Nat.lt_add_of_pos_right rowsPos) rowsInside
    column_lt := Nat.lt_of_lt_of_le (Nat.lt_add_of_pos_right columnsPos) columnsInside }
  have own : plan.destinationLayout.Contains pixel.image 0 pixel.row pixel.column :=
    ⟨imageLt, sound.channels_pos, rowLt, columnLt⟩
  exact {
    window_eq := windowEq
    rows_pos := rowsPos
    columns_pos := columnsPos
    source_offset := Layout.offset_of_contains (Layout.count_lt_limit sized.source) first
    source_fits := Layout.place_mul_size_lt sized.source first
    destination_offset := Layout.offset_of_contains (Layout.count_lt_limit sized.destination) own
    destination_fits := Layout.place_mul_size_lt sized.destination own }

/-- The positions of a window are positions of the input, so they can be counted. -/
theorem weight_lt_of_excluding {pixel : Pixel} (callable : plan.Callable pixel)
    (sized : plan.Sized) (imageLt : pixel.image < plan.batch) (channelsPos : 0 < plan.channels)
    (excluding : plan.algorithm = .averageExcludingPadding) :
    plan.weight (plan.clippedWindow pixel) < Size.limit := by
  have rowsInside := callable.rows_inside
  have columnsInside := callable.columns_inside
  have positions :
      (plan.clippedWindow pixel).rows.count * (plan.clippedWindow pixel).columns.count ≤
        plan.input.height * plan.input.width := by
    apply Nat.mul_le_mul
    · omega
    · omega
  have images : plan.input.height * plan.input.width ≤ plan.sourceLayout.count := by
    rw [Layout.count_eq]
    calc plan.input.height * plan.input.width
        ≤ plan.batch * (plan.input.height * plan.input.width) :=
          Nat.le_mul_of_pos_left _ (Nat.zero_lt_of_lt imageLt)
      _ ≤ plan.batch * (plan.input.height * plan.input.width) * plan.channels :=
          Nat.le_mul_of_pos_right _ channelsPos
  have counted := Layout.count_lt_limit sized.source
  simp only [weight, excluding]
  omega

end Plan

theorem Operator.Planned.sound {operator : Operator} {source destination : Layout}
    {host : Capabilities} {options : Options} {plan : Plan}
    (planned : operator.Planned source destination host options plan) :
    plan.Sound operator := by
  obtain ⟨set, rfl⟩ : ∃ set, plan = operator.toPlan source destination set options.unroll :=
    ⟨_, planned.plan_eq⟩
  have suits := planned.suits
  exact {
    algorithm_eq := rfl
    kernel_eq := rfl
    vertical_eq := rfl
    horizontal_eq := rfl
    channels_pos := suits.channels_pos
    vertical := suits.vertical
    horizontal := suits.horizontal
    height_fits := suits.height_fits
    width_fits := suits.width_fits
    output_eq := suits.extent_eq }

end IntegerPooling
