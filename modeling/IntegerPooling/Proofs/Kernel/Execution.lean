import IntegerPooling.Proofs.Kernel.Pixel

/-!
# Running over all pixels

A run sets the places of its pixels one pixel after another. The pixels of an output own each of
its places exactly once, so a run over all of them replaces the whole destination: whatever it
held before, every place ends up with the output element for that place (`foldlM_visited_eq_ok`).
-/

namespace IntegerPooling

theorem Layout.length_of_byteSize {t : ElementType} {layout : Layout}
    {elements : List (Element t)}
    (sized : layout.byteSize = .ok (Buffer.ofElements elements).size)
    (typeEq : t.dataType = layout.dataType) : elements.length = layout.count := by
  have sizeEq := (byteSize_eq_ok_iff.mp sized).2
  rw [Buffer.size_ofElements, ← typeEq, ElementType.size_dataType] at sizeEq
  exact Nat.eq_of_mul_eq_mul_right t.size_pos sizeEq

theorem Layout.byteSize_of_length {t : ElementType} {layout : Layout}
    {elements : List (Element t)} (fits : ¬layout.Oversized)
    (typeEq : t.dataType = layout.dataType) (whole : elements.length = layout.count) :
    layout.byteSize = .ok (Buffer.ofElements elements).size := by
  rw [byteSize_of_not_oversized fits, Buffer.size_ofElements, whole, ← typeEq,
    ElementType.size_dataType]

/-- A buffer of the size of a layout is a list of its elements. -/
theorem Buffer.exists_elements {t : ElementType} {layout : Layout} {buffer : Buffer}
    (sized : layout.byteSize = .ok buffer.size) (typeEq : t.dataType = layout.dataType) :
    ∃ elements : List (Element t), buffer = ofElements elements ∧
      elements.length = layout.count := by
  have sizeEq : buffer.size = layout.count * t.size := by
    rw [(Layout.byteSize_eq_ok_iff.mp sized).2, ← typeEq, ElementType.size_dataType]
  have bytes := ofElements_toElements sizeEq
  refine ⟨toElements t buffer, bytes.symm, ?_⟩
  apply Layout.length_of_byteSize _ typeEq
  rw [bytes]
  exact sized

/-- All places of a destination, pixel by pixel. -/
theorem Plan.flatMap_pixelPlaces (plan : Plan) :
    (Traversal.rowMajorPixels plan.batch plan.output.height plan.output.width).flatMap
        plan.pixelPlaces =
      List.range plan.destinationLayout.count := by
  have numbered : ∀ number : Nat,
      plan.pixelPlaces (Traversal.pixelOfNumber (plan.output.height * plan.output.width)
        plan.output.width number) =
          (List.range plan.channels).map fun channel => id (number * plan.channels + channel) := by
    intro number
    rw [pixelPlaces]
    apply List.map_congr_left
    intro channel _
    rw [Layout.place_eq_number]
    simp only [destinationLayout]
    rw [Traversal.number_pixelOfNumber]
    rfl
  have counted := Sequence.flatMap_range_map id plan.channels
    (plan.batch * (plan.output.height * plan.output.width))
  rw [Traversal.rowMajorPixels_eq_map, List.flatMap_map, Layout.count_eq]
  simp only [numbered]
  rw [counted, List.map_id]
  rfl

namespace Kernel

variable {kernel : Kernel}

/-- The pixels of a run, in the order of the nested loops. -/
def pixels (kernel : Kernel) : List Pixel :=
  Traversal.rowMajorPixels kernel.plan.batch kernel.plan.output.height kernel.plan.output.width

theorem mem_pixels {pixel : Pixel} :
    pixel ∈ kernel.pixels ↔
      pixel.Within kernel.plan.batch kernel.plan.output.height kernel.plan.output.width :=
  Traversal.mem_rowMajorPixels

theorem foldlM_runPixel_eq_ok (fits : Routine.Fits kernel.plan kernel.routine)
    {elements : List (Element kernel.routine.path.source)}
    (whole : elements.length = kernel.plan.sourceLayout.count) {visited : List Pixel}
    (within : ∀ pixel ∈ visited, pixel ∈ kernel.pixels)
    (made : ∀ pixel ∈ visited, ∃ call, kernel.plan.call pixel = .ok call)
    {current : List (Element kernel.routine.path.destination)}
    (currentWhole : current.length = kernel.plan.destinationLayout.count) :
    visited.foldlM (kernel.runPixel (Buffer.ofElements elements)) (Buffer.ofElements current) =
      .ok (Buffer.ofElements (Buffer.overwrite (kernel.outputAt elements) current
        (visited.flatMap kernel.plan.pixelPlaces))) := by
  induction visited generalizing current with
  | nil => rfl
  | cons pixel rest ih =>
    rcases made pixel List.mem_cons_self with ⟨call, madeHere⟩
    have ran := runPixel_eq_ok fits whole currentWhole
      (mem_pixels.mp (within pixel List.mem_cons_self)) madeHere
    rw [List.foldlM_cons, ran, Outcome.ok_bind, List.flatMap_cons, Buffer.overwrite_append]
    apply ih
    · intro other otherMem
      exact within other (List.mem_cons_of_mem _ otherMem)
    · intro other otherMem
      exact made other (List.mem_cons_of_mem _ otherMem)
    · rw [Buffer.length_overwrite, currentWhole]

/-- When every pixel gets its call, visiting all of them in any order replaces the whole destination
by the output elements. -/
theorem foldlM_visited_eq_ok (fits : Routine.Fits kernel.plan kernel.routine)
    {elements : List (Element kernel.routine.path.source)}
    (whole : elements.length = kernel.plan.sourceLayout.count) {visited : List Pixel}
    (complete : ∀ pixel, pixel ∈ visited ↔ pixel ∈ kernel.pixels)
    (made : ∀ pixel ∈ kernel.pixels, ∃ call, kernel.plan.call pixel = .ok call)
    {current : List (Element kernel.routine.path.destination)}
    (currentWhole : current.length = kernel.plan.destinationLayout.count) :
    visited.foldlM (kernel.runPixel (Buffer.ofElements elements)) (Buffer.ofElements current) =
      .ok (Buffer.ofElements ((List.range kernel.plan.destinationLayout.count).map
        (kernel.outputAt elements))) := by
  have covered : ∀ index < current.length, index ∈ visited.flatMap kernel.plan.pixelPlaces := by
    intro index indexLt
    have owned : index ∈ kernel.pixels.flatMap kernel.plan.pixelPlaces := by
      rw [pixels, Plan.flatMap_pixelPlaces, ← currentWhole]
      exact List.mem_range.mpr indexLt
    rcases List.mem_flatMap.mp owned with ⟨pixel, pixelMem, indexMem⟩
    exact List.mem_flatMap.mpr ⟨pixel, (complete pixel).mpr pixelMem, indexMem⟩
  rw [foldlM_runPixel_eq_ok fits whole (fun pixel => (complete pixel).mp)
    (fun pixel pixelMem => made pixel ((complete pixel).mp pixelMem)) currentWhole,
    Buffer.overwrite_of_covered _ covered, currentWhole]

theorem foldlM_visited_eq_error {source destination : Buffer} {fault : Fault}
    {visited : List Pixel}
    (refused : ∀ pixel ∈ visited, kernel.plan.call pixel = .error fault)
    (nonempty : visited ≠ []) :
    visited.foldlM (kernel.runPixel source) destination = .error fault := by
  cases visited with
  | nil => exact absurd rfl nonempty
  | cons pixel rest =>
    rw [List.foldlM_cons, runPixel_of_call_eq_error (refused pixel List.mem_cons_self)]
    rfl

theorem pixels_ne_nil_iff :
    kernel.pixels ≠ [] ↔
      0 < kernel.plan.batch ∧ 0 < kernel.plan.output.height ∧ 0 < kernel.plan.output.width := by
  rw [ne_eq, List.eq_nil_iff_forall_not_mem]
  constructor
  · intro some
    rcases not_forall.mp some with ⟨pixel, present⟩
    rcases mem_pixels.mp (not_not.mp present) with ⟨imageLt, rowLt, columnLt⟩
    exact ⟨Nat.zero_lt_of_lt imageLt, Nat.zero_lt_of_lt rowLt, Nat.zero_lt_of_lt columnLt⟩
  · intro positive none
    exact none ⟨0, 0, 0⟩ (mem_pixels.mpr positive)

theorem execute_rowMajor (kernel : Kernel) (source destination : Buffer) :
    kernel.execute Traversal.rowMajor source destination = (do
      kernel.sourceLayout.checkBuffer .source source
      kernel.destinationLayout.checkBuffer .destination destination
      kernel.pixels.foldlM (kernel.runPixel source) destination) :=
  rfl

theorem checkBuffer_of_sized {layout : Layout} {buffer : Buffer} (side : Side)
    (sized : layout.byteSize = .ok buffer.size) : layout.checkBuffer side buffer = .ok () := by
  rw [Layout.checkBuffer, sized]
  exact if_pos rfl

end Kernel

end IntegerPooling
