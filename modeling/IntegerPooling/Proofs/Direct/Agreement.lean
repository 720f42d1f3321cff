import IntegerPooling.Proofs.Direct.Window
import IntegerPooling.Proofs.Kernel.Output

/-!
# Kernels compute what pooling means

The output element that a kernel computes for a pixel and a channel is the one that the definition
of pooling gives for the same place: both reduce the same elements in the same order, and the
divisor of an average without padding counts exactly these elements. As the places of both are
listed in the same order, the definition gives the list that a run leaves in its destination
(`pool_eq_ok`).
-/

namespace IntegerPooling

namespace Direct

/-- The sizes for which pooling by definition is meaningful. -/
structure Bounded (operator : Operator) (source destination : Layout) : Prop where
  source_small : source.count * source.dataType.size < 2 ^ 63
  destination_small : ∃ bytes, destination.byteSize = .ok bytes ∧ bytes < 2 ^ 63
  height_small :
    source.extent.height + operator.before.height + operator.after.height < 2 ^ 63
  width_small : source.extent.width + operator.before.width + operator.after.width < 2 ^ 63
  kernel_small : operator.kernel.height * operator.kernel.width < 2 ^ 64

/-- The places of the output elements are those of the channels of each pixel. -/
theorem places_eq_flatMap (destination : Layout) :
    places destination =
      (Traversal.rowMajorPixels destination.batch destination.extent.height
        destination.extent.width).flatMap fun pixel =>
          (List.range destination.channels).map fun channel =>
            (pixel.image, pixel.row, pixel.column, channel) := by
  simp only [places, Traversal.rowMajorPixels, List.flatMap_assoc, List.flatMap_map]

end Direct

namespace Kernel

variable {operator : Operator} {kernel : Kernel}

/-- The definition collects the elements at the taps of every output pixel. -/
theorem windowElements_of_mem_pixels (sound : kernel.plan.Sound operator)
    (sized : kernel.plan.Sized)
    (bounded : Direct.Bounded operator kernel.sourceLayout kernel.destinationLayout)
    {s : ElementType} {elements : List (Element s)}
    (whole : elements.length = kernel.sourceLayout.count) {pixel : Pixel}
    (pixelMem : pixel ∈ kernel.pixels) {channel : Nat}
    (channelLt : channel < kernel.plan.channels) :
    Direct.windowElements operator kernel.sourceLayout elements.toArray pixel.image channel
        pixel.row pixel.column =
      .ok (operator.tapElements kernel.sourceLayout elements pixel.image channel pixel.row
        pixel.column) := by
  rcases mem_pixels.mp pixelMem with ⟨imageLt, rowLt, columnLt⟩
  rw [sound.output_eq] at rowLt columnLt
  rw [sound.vertical_eq] at rowLt
  rw [sound.horizontal_eq] at columnLt
  exact Direct.windowElements_eq_ok (Layout.count_lt_limit sized.source) whole
    bounded.height_small bounded.width_small imageLt channelLt rowLt columnLt

/-- What the definition gives for a place is what the kernel computes for it. -/
theorem outputElement_agrees (fits : Routine.Fits kernel.plan kernel.routine)
    (sound : kernel.plan.Sound operator) (sized : kernel.plan.Sized)
    (bounded : Direct.Bounded operator kernel.sourceLayout kernel.destinationLayout)
    {elements : List (Element kernel.routine.path.source)}
    (whole : elements.length = kernel.sourceLayout.count) {pixel : Pixel}
    (pixelMem : pixel ∈ kernel.pixels) {channel : Nat}
    (channelLt : channel < kernel.plan.channels) :
    (Direct.windowElements operator kernel.sourceLayout elements.toArray pixel.image channel
        pixel.row pixel.column >>=
        Direct.outputElement operator kernel.routine.path.destination) =
      .ok (kernel.outputElement elements pixel channel) := by
  rw [windowElements_of_mem_pixels sound sized bounded whole pixelMem channelLt, Outcome.ok_bind]
  exact outputElement_tapElements fits sound elements (fun _ => bounded.kernel_small) channel

theorem flatMap_outputElement (elements : List (Element kernel.routine.path.source)) :
    (kernel.pixels.flatMap fun pixel =>
        (List.range kernel.plan.channels).map (kernel.outputElement elements pixel)) =
      (List.range kernel.plan.destinationLayout.count).map (kernel.outputAt elements) := by
  rw [← Plan.flatMap_pixelPlaces, List.map_flatMap]
  apply List.flatMap_congr
  intro pixel pixelMem
  rcases mem_pixels.mp pixelMem with ⟨_, rowLt, columnLt⟩
  rw [Plan.pixelPlaces, List.map_map]
  apply List.map_congr_left
  intro channel channelMem
  exact (outputAt_place elements rowLt columnLt (List.mem_range.mp channelMem)).symm

/-- The output elements of all places of the definition are those of all places of the kernel. -/
theorem map_places (elements : List (Element kernel.routine.path.source)) :
    ((Direct.places kernel.destinationLayout).map fun place =>
        kernel.outputElement elements ⟨place.1, place.2.1, place.2.2.1⟩ place.2.2.2) =
      (List.range kernel.plan.destinationLayout.count).map (kernel.outputAt elements) := by
  rw [← flatMap_outputElement, Direct.places_eq_flatMap, List.map_flatMap]
  apply List.flatMap_congr
  intro pixel _
  rw [List.map_map]
  rfl

theorem outputElement_agrees_of_mem_places (fits : Routine.Fits kernel.plan kernel.routine)
    (sound : kernel.plan.Sound operator) (sized : kernel.plan.Sized)
    (bounded : Direct.Bounded operator kernel.sourceLayout kernel.destinationLayout)
    {elements : List (Element kernel.routine.path.source)}
    (whole : elements.length = kernel.sourceLayout.count) {place : Nat × Nat × Nat × Nat}
    (placeMem : place ∈ Direct.places kernel.destinationLayout) :
    (Direct.windowElements operator kernel.sourceLayout elements.toArray place.1 place.2.2.2
        place.2.1 place.2.2.1 >>=
        Direct.outputElement operator kernel.routine.path.destination) =
      .ok (kernel.outputElement elements ⟨place.1, place.2.1, place.2.2.1⟩ place.2.2.2) := by
  rw [Direct.places_eq_flatMap] at placeMem
  rcases List.mem_flatMap.mp placeMem with ⟨pixel, pixelMem, placeMem⟩
  rcases List.mem_map.mp placeMem with ⟨channel, channelMem, rfl⟩
  exact outputElement_agrees fits sound sized bounded whole pixelMem (List.mem_range.mp channelMem)

theorem sized_of_bounded (fits : Routine.Fits kernel.plan kernel.routine)
    (sound : kernel.plan.Sound operator)
    (bounded : Direct.Bounded operator kernel.sourceLayout kernel.destinationLayout) :
    kernel.plan.Sized := by
  rcases bounded.destination_small with ⟨bytes, destinationSized, _⟩
  have heightPos : 0 < kernel.plan.vertical.extent := sound.vertical.extent_pos
  have widthPos : 0 < kernel.plan.horizontal.extent := sound.horizontal.extent_pos
  have sizePos : 0 < kernel.plan.source.size := by
    rw [← fits.chosen.source_eq]
    exact kernel.routine.path.source.size_pos
  have small : kernel.sourceLayout.count * kernel.sourceLayout.dataType.size < Size.limit :=
    Nat.lt_trans bounded.source_small (by decide)
  exact ⟨Layout.not_oversized_of_lt heightPos widthPos sizePos small,
    (Layout.byteSize_eq_ok_iff.mp destinationSized).1⟩

/-- The definition of pooling gives the output elements of the kernel. -/
theorem pool_eq_ok (fits : Routine.Fits kernel.plan kernel.routine)
    (sound : kernel.plan.Sound operator)
    (bounded : Direct.Bounded operator kernel.sourceLayout kernel.destinationLayout)
    {elements : List (Element kernel.routine.path.source)}
    (whole : elements.length = kernel.sourceLayout.count)
    (described : operator.destination kernel.sourceLayout kernel.plan.destination =
      .ok kernel.destinationLayout) :
    Direct.pool operator kernel.routine.path.destination kernel.plan.batch kernel.plan.channels
        kernel.plan.input elements =
      .ok ((List.range kernel.plan.destinationLayout.count).map (kernel.outputAt elements)) := by
  have sized := sized_of_bounded fits sound bounded
  have layoutEq : (⟨kernel.plan.batch, kernel.plan.channels, kernel.plan.input,
      kernel.routine.path.source.dataType⟩ : Layout) = kernel.sourceLayout := by
    rw [fits.chosen.source_eq]
    rfl
  have counted : kernel.sourceLayout.elementCount = .ok kernel.sourceLayout.count :=
    Layout.elementCount_of_countable fun uncountable => sized.source (Or.inl uncountable)
  rcases bounded.destination_small with ⟨bytes, destinationSized, small⟩
  have allocated := Layout.allocation_of_byteSize destinationSized small
  rw [← map_places]
  simp only [Direct.pool, layoutEq, fits.chosen.destination_eq, described, counted, allocated,
    Outcome.ok_bind, whole, ne_eq, not_true_eq_false, if_false]
  apply Sequence.mapM_eq_ok
  intro place placeMem
  exact outputElement_agrees_of_mem_places fits sound sized bounded whole placeMem

end Kernel

end IntegerPooling
