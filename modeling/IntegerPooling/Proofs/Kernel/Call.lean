import IntegerPooling.Kernel.Run
import IntegerPooling.Proofs.Axis
import IntegerPooling.Proofs.Blocks.Footprint
import IntegerPooling.Proofs.Layout
import IntegerPooling.Proofs.Routine

/-!
# Calls of a routine

The call for an output pixel is a matter of sizes only: its numbers are those of `callFor`, and it
is made when none of them leaves a machine word and the window has a position inside the input.
A window that was clipped along both axes reaches places of the source only: stepping by columns
and rows from the first place of the window leads to the elements of its own image, row by row
and for every channel (`place_add_tap`).
-/

namespace IntegerPooling

namespace Plan

/-- The part of the window of a pixel that lies inside the input. -/
def clippedWindow (plan : Plan) (pixel : Pixel) : Window :=
  ⟨plan.vertical.clipped pixel.row, plan.horizontal.clipped pixel.column⟩

/-- The number that the sum of a window is divided by, however large. -/
def weight (plan : Plan) (window : Window) : Nat :=
  match plan.algorithm with
  | .averageExcludingPadding => window.rows.count * window.columns.count
  | .averageIncludingPadding => plan.kernel.height * plan.kernel.width
  | .maximum => plan.kernel.height * plan.kernel.width

def firstPlace (plan : Plan) (pixel : Pixel) : Nat :=
  plan.sourceLayout.place pixel.image 0 (plan.clippedWindow pixel).rows.start
    (plan.clippedWindow pixel).columns.start

def taskFor (plan : Plan) (pixel : Pixel) : Task :=
  ⟨(plan.clippedWindow pixel).rows.count, (plan.clippedWindow pixel).columns.count,
    Binary32.perCount (plan.weight (plan.clippedWindow pixel))⟩

/-- The call for a pixel, with numbers of any size. -/
def callFor (plan : Plan) (pixel : Pixel) : Call :=
  ⟨plan.firstPlace pixel * plan.source.size,
    plan.destinationLayout.place pixel.image 0 pixel.row pixel.column * plan.destination.size,
    plan.taskFor pixel⟩

/-- What a call needs apart from its factor. -/
structure Callable (plan : Plan) (pixel : Pixel) : Prop where
  window_eq : plan.window pixel.row pixel.column = .ok (plan.clippedWindow pixel)
  rows_pos : 0 < (plan.clippedWindow pixel).rows.count
  columns_pos : 0 < (plan.clippedWindow pixel).columns.count
  source_offset : plan.sourceLayout.offset pixel.image 0 (plan.clippedWindow pixel).rows.start
    (plan.clippedWindow pixel).columns.start = .ok (plan.firstPlace pixel)
  source_fits : plan.firstPlace pixel * plan.source.size < Size.limit
  destination_offset : plan.destinationLayout.offset pixel.image 0 pixel.row pixel.column =
    .ok (plan.destinationLayout.place pixel.image 0 pixel.row pixel.column)
  destination_fits : plan.destinationLayout.place pixel.image 0 pixel.row pixel.column *
    plan.destination.size < Size.limit

theorem window_eq_ok_iff {plan : Plan} {row column : Nat} {window : Window} :
    plan.window row column = .ok window ↔
      plan.vertical.span row = .ok window.rows ∧
        plan.horizontal.span column = .ok window.columns := by
  simp only [Plan.window, Outcome.bind_eq_ok_iff]
  constructor
  · rintro ⟨rows, rowsFound, columns, columnsFound, same⟩
    cases same
    exact ⟨rowsFound, columnsFound⟩
  · rintro ⟨rowsFound, columnsFound⟩
    exact ⟨_, rowsFound, _, columnsFound, rfl⟩

theorem eq_clippedWindow_of_window {plan : Plan} {pixel : Pixel} {window : Window}
    (found : plan.window pixel.row pixel.column = .ok window) :
    window = plan.clippedWindow pixel := by
  rcases window_eq_ok_iff.mp found with ⟨rowsFound, columnsFound⟩
  rcases Axis.span_eq_ok_iff.mp rowsFound with ⟨_, _, rowsEq⟩
  rcases Axis.span_eq_ok_iff.mp columnsFound with ⟨_, _, columnsEq⟩
  rw [clippedWindow, rowsEq, columnsEq]

theorem divisor_eq (plan : Plan) (window : Window) :
    plan.divisor window =
      if plan.weight window < Size.limit then .ok (plan.weight window)
      else .error (.overflow .multiply) := by
  unfold divisor weight
  cases plan.algorithm <;> rfl

theorem factor_of_lt {plan : Plan} {window : Window} (light : plan.weight window < Size.limit) :
    plan.factor window = .ok (Binary32.perCount (plan.weight window)) := by
  rw [factor, divisor_eq, if_pos light]
  rfl

theorem factor_of_le {plan : Plan} {window : Window} (heavy : Size.limit ≤ plan.weight window) :
    plan.factor window = .error (.overflow .multiply) := by
  rw [factor, divisor_eq, if_neg (Nat.not_lt_of_le heavy)]
  rfl

/-- Only its factor can keep a callable pixel from getting its call. -/
theorem call_of_callable {plan : Plan} {pixel : Pixel} (callable : plan.Callable pixel) :
    plan.call pixel = plan.factor (plan.clippedWindow pixel) >>= fun factor =>
      .ok { plan.callFor pixel with task := { plan.taskFor pixel with factor := factor } } := by
  rcases callable with ⟨windowEq, rowsPos, columnsPos, sourceOffset, sourceFits,
    destinationOffset, destinationFits⟩
  have nonempty : ¬((plan.clippedWindow pixel).rows.count = 0 ∨
      (plan.clippedWindow pixel).columns.count = 0) := by omega
  simp only [call, windowEq, Outcome.ok_bind, if_neg nonempty, sourceOffset, destinationOffset,
    Size.mul_of_lt sourceFits, Size.mul_of_lt destinationFits]
  rfl

theorem call_of_lt {plan : Plan} {pixel : Pixel} (callable : plan.Callable pixel)
    (light : plan.weight (plan.clippedWindow pixel) < Size.limit) :
    plan.call pixel = .ok (plan.callFor pixel) := by
  rw [call_of_callable callable, factor_of_lt light]
  rfl

theorem call_of_le {plan : Plan} {pixel : Pixel} (callable : plan.Callable pixel)
    (heavy : Size.limit ≤ plan.weight (plan.clippedWindow pixel)) :
    plan.call pixel = .error (.overflow .multiply) := by
  rw [call_of_callable callable, factor_of_le heavy]
  rfl

theorem callable_of_call {plan : Plan} {pixel : Pixel} {call : Call}
    (made : plan.call pixel = .ok call) : plan.Callable pixel := by
  simp only [Plan.call, Outcome.bind_eq_ok_iff] at made
  rcases made with ⟨window, found, made⟩
  have windowEq := eq_clippedWindow_of_window found
  subst windowEq
  split at made
  · cases made
  · rename_i nonempty
    simp only [Outcome.bind_eq_ok_iff, Size.mul_eq_ok_iff] at made
    rcases made with ⟨first, sourceOffset, _, ⟨rfl, sourceFits⟩, place, destinationOffset,
      _, ⟨rfl, destinationFits⟩, _⟩
    have firstEq := Layout.eq_place_of_offset sourceOffset
    have placeEq := Layout.eq_place_of_offset destinationOffset
    subst firstEq placeEq
    exact ⟨found, by omega, by omega, sourceOffset, sourceFits, destinationOffset,
      destinationFits⟩

theorem eq_callFor_of_call {plan : Plan} {pixel : Pixel} {call : Call}
    (made : plan.call pixel = .ok call) : call = plan.callFor pixel := by
  have callable := callable_of_call made
  by_cases light : plan.weight (plan.clippedWindow pixel) < Size.limit
  · rw [call_of_lt callable light] at made
    cases made
    rfl
  · rw [call_of_le callable (Nat.le_of_not_lt light)] at made
    cases made

theorem Callable.rows_inside {plan : Plan} {pixel : Pixel} (callable : plan.Callable pixel) :
    (plan.clippedWindow pixel).rows.start + (plan.clippedWindow pixel).rows.count ≤
      plan.input.height :=
  Axis.start_add_count_clip_le callable.rows_pos

theorem Callable.columns_inside {plan : Plan} {pixel : Pixel} (callable : plan.Callable pixel) :
    (plan.clippedWindow pixel).columns.start + (plan.clippedWindow pixel).columns.count ≤
      plan.input.width :=
  Axis.start_add_count_clip_le callable.columns_pos

/-- Stepping over rows, columns and channels from the first place of a window leads to the element
with those steps added to its coordinates. -/
theorem place_add_tap (plan : Plan) (pixel : Pixel) (row column channel : Nat) :
    plan.firstPlace pixel +
        (row * plan.geometry.rowStride + column * plan.geometry.channels + channel) =
      plan.sourceLayout.place pixel.image channel ((plan.clippedWindow pixel).rows.start + row)
        ((plan.clippedWindow pixel).columns.start + column) := by
  simp only [firstPlace, Layout.place, sourceLayout, geometry, Nat.add_mul, Nat.mul_assoc]
  omega

/-- Every place that the routine may load from belongs to an element of the image of the pixel. -/
theorem contains_of_mem_footprint {plan : Plan} {pixel : Pixel} {place : Nat}
    (callable : plan.Callable pixel) (imageLt : pixel.image < plan.batch)
    (placeMem : place ∈ plan.geometry.footprint (plan.taskFor pixel)) :
    ∃ channel row column, plan.sourceLayout.Contains pixel.image channel row column ∧
      plan.firstPlace pixel + place = plan.sourceLayout.place pixel.image channel row column := by
  rcases Geometry.mem_footprint.mp placeMem with ⟨_, tapMem, channel, channelLt, rfl⟩
  rcases Geometry.mem_taps.mp tapMem with ⟨row, rowLt, column, columnLt, rfl⟩
  have rowsInside := callable.rows_inside
  have columnsInside := callable.columns_inside
  rw [taskFor] at rowLt columnLt
  refine ⟨channel, (plan.clippedWindow pixel).rows.start + row,
    (plan.clippedWindow pixel).columns.start + column, ?_, plan.place_add_tap pixel _ _ _⟩
  exact {
    image_lt := imageLt
    channel_lt := channelLt
    row_lt := Nat.lt_of_lt_of_le (Nat.add_lt_add_left rowLt _) rowsInside
    column_lt := Nat.lt_of_lt_of_le (Nat.add_lt_add_left columnLt _) columnsInside }

/-- The places of one channel in the window of a pixel, row by row. -/
def windowPlaces (plan : Plan) (pixel : Pixel) (channel : Nat) : List Nat :=
  (List.range' (plan.clippedWindow pixel).rows.start (plan.clippedWindow pixel).rows.count).flatMap
    fun row =>
      (List.range' (plan.clippedWindow pixel).columns.start
        (plan.clippedWindow pixel).columns.count).map fun column =>
          plan.sourceLayout.place pixel.image channel row column

/-- The taps of the routine reach the places of the window in their order. -/
theorem map_taps (plan : Plan) (pixel : Pixel) (channel : Nat) :
    ((plan.geometry.taps (plan.taskFor pixel)).map fun tap =>
        plan.firstPlace pixel + (tap + channel)) = plan.windowPlaces pixel channel := by
  simp only [Geometry.taps, taskFor, windowPlaces, List.map_flatMap, List.map_map,
    List.range'_eq_map_range, List.flatMap_map]
  apply List.flatMap_congr
  intro row _
  apply List.map_congr_left
  intro column _
  exact plan.place_add_tap pixel row column channel

end Plan

end IntegerPooling
