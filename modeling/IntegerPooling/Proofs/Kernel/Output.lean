import IntegerPooling.Proofs.Direct.Taps
import IntegerPooling.Proofs.Kernel.Decision

/-!
# What a run leaves at a place

A run of a built kernel may visit the pixels in any order that visits each of them once: its
outcome, result or fault, is that of the nested loops (`execute_eq_rowMajor`). When it returns,
every output element is what the definition of pooling makes of the elements at the taps of its
window (`exists_output`). What a window is reduced to is decided there and nowhere else, so a
property of single output elements only has to be shown of `Direct.outputElement`.
-/

namespace IntegerPooling

theorem Element.saturate_widen {t : ElementType} (element : Element t) :
    Element.saturate t element.widen = element :=
  Element.clamp_val element

namespace Direct

/-- The output element of a window is the reduction of its elements along the data path. -/
theorem outputElement_eq_ok {operator : Operator} {path : DataPath}
    (isMaximum : (∃ t, path = .maximum t) ↔ operator.algorithm = .maximum)
    (elements : List (Element path.source)) {weight : Nat}
    (excluding : operator.algorithm = .averageExcludingPadding → weight = elements.length)
    (including : operator.algorithm = .averageIncludingPadding →
      weight = operator.kernel.height * operator.kernel.width ∧ weight < Size.limit) :
    outputElement operator path.destination elements =
      .ok (path.reduce elements (Binary32.perCount weight)) := by
  cases path with
  | maximum t =>
    have algorithmEq := isMaximum.mp ⟨t, rfl⟩
    rw [outputElement, algorithmEq]
    exact congrArg Except.ok (Element.saturate_widen (greatest elements))
  | average source destination =>
    cases algorithmEq : operator.algorithm with
    | maximum =>
      rcases isMaximum.mpr algorithmEq with ⟨_, impossible⟩
      cases impossible
    | averageIncludingPadding =>
      rcases including algorithmEq with ⟨rfl, fits⟩
      rw [outputElement, algorithmEq]
      simp only [Size.mul_of_lt fits, Outcome.ok_bind]
      rfl
    | averageExcludingPadding =>
      rw [outputElement, algorithmEq, excluding algorithmEq]
      rfl

end Direct

namespace Plan

variable {plan : Plan} {operator : Operator}

/-- The taps inside the input reach the places of the clipped window. -/
theorem windowPlaces_eq (sound : plan.Sound operator) (pixel : Pixel) (channel : Nat) :
    plan.windowPlaces pixel channel =
      (operator.tapPositions plan.input pixel.row pixel.column).map fun position =>
        plan.sourceLayout.place pixel.image channel position.1 position.2 := by
  rw [windowPlaces, clippedWindow, sound.vertical_eq, sound.horizontal_eq,
    Operator.tapPositions_eq, List.map_flatMap]
  simp only [List.map_map]
  rfl

/-- The sum of a window is divided by the divisor of its operator. -/
theorem weight_eq_divisor (sound : plan.Sound operator) (pixel : Pixel) :
    plan.weight (plan.clippedWindow pixel) =
      operator.divisor plan.input pixel.row pixel.column := by
  have counted := operator.length_tapPositions plan.input pixel.row pixel.column
  rw [← sound.vertical_eq, ← sound.horizontal_eq] at counted
  rw [weight, Operator.divisor, sound.algorithm_eq, sound.kernel_eq]
  cases operator.algorithm with
  | maximum => rfl
  | averageIncludingPadding => rfl
  | averageExcludingPadding => exact counted.symm

/-- Every window reaches some position of the input. -/
theorem tapPositions_ne_nil (sound : plan.Sound operator) {row column : Nat}
    (rowLt : row < plan.output.height) (columnLt : column < plan.output.width) :
    operator.tapPositions plan.input row column ≠ [] := by
  have window := @window_of_sound plan operator sound ⟨0, row, column⟩ rowLt columnLt
  rw [clippedWindow, sound.vertical_eq, sound.horizontal_eq] at window
  apply List.ne_nil_of_length_pos
  rw [Operator.length_tapPositions]
  exact Nat.mul_pos window.2.1 window.2.2

theorem divisor_pos (sound : plan.Sound operator) {row column : Nat}
    (rowLt : row < plan.output.height) (columnLt : column < plan.output.width) :
    0 < operator.divisor plan.input row column := by
  have kernelPos : 0 < operator.kernel.height * operator.kernel.width := by
    rw [← sound.kernel_eq]
    exact Nat.mul_pos sound.vertical.kernel_pos sound.horizontal.kernel_pos
  unfold Operator.divisor
  split
  · exact List.length_pos_iff.mpr (tapPositions_ne_nil sound rowLt columnLt)
  · exact kernelPos
  · exact kernelPos

end Plan

namespace Kernel

variable {operator : Operator} {kernel : Kernel}

/-- What the definition makes of the elements at the taps is what the kernel computes. -/
theorem outputElement_tapElements (fits : Routine.Fits kernel.plan kernel.routine)
    (sound : kernel.plan.Sound operator) (elements : List (Element kernel.routine.path.source))
    {pixel : Pixel} (including : operator.algorithm = .averageIncludingPadding →
      operator.kernel.height * operator.kernel.width < Size.limit) (channel : Nat) :
    Direct.outputElement operator kernel.routine.path.destination
        (operator.tapElements kernel.sourceLayout elements pixel.image channel pixel.row
          pixel.column) =
      .ok (kernel.outputElement elements pixel channel) := by
  have isMaximum := fits.chosen.isMaximum_iff
  rw [sound.algorithm_eq] at isMaximum
  have window : operator.tapElements kernel.sourceLayout elements pixel.image channel pixel.row
      pixel.column =
        (kernel.plan.windowPlaces pixel channel).map fun place =>
          elements.getD place (Element.lowest _) := by
    rw [Plan.windowPlaces_eq sound, List.map_map]
    rfl
  rw [outputElement, ← window, Plan.taskFor, Plan.weight_eq_divisor sound]
  apply Direct.outputElement_eq_ok isMaximum
  · intro excluding
    rw [Operator.divisor, excluding, Operator.tapElements, List.length_map]
    rfl
  · intro isIncluding
    rw [Operator.divisor, isIncluding]
    exact ⟨rfl, including isIncluding⟩

/-- The outcome of a run does not depend on the order of its pixels, not even that of a run that
is stopped. -/
theorem foldlM_visited_eq_pixels (fits : Routine.Fits kernel.plan kernel.routine)
    (sound : kernel.plan.Sound operator) {source destination : Buffer}
    (sourceSized : kernel.sourceLayout.byteSize = .ok source.size)
    (destinationSized : kernel.destinationLayout.byteSize = .ok destination.size)
    {visited : List Pixel} (complete : ∀ pixel, pixel ∈ visited ↔ pixel ∈ kernel.pixels) :
    visited.foldlM (kernel.runPixel source) destination =
      kernel.pixels.foldlM (kernel.runPixel source) destination := by
  have sized := Plan.sized_of_byteSize sourceSized destinationSized
  by_cases heavy : kernel.plan.Heavy
  · have refused := calls_of_heavy sound sized heavy
    have some := pixels_ne_nil_iff.mpr heavy.1
    have someVisited : visited ≠ [] := by
      rintro rfl
      exact some (List.eq_nil_iff_forall_not_mem.mpr fun pixel pixelMem =>
        List.not_mem_nil ((complete pixel).mpr pixelMem))
    rw [foldlM_visited_eq_error refused some, foldlM_visited_eq_error _ someVisited]
    intro pixel pixelMem
    exact refused pixel ((complete pixel).mp pixelMem)
  · have made := calls_of_not_heavy sound sized heavy
    rcases Buffer.exists_elements sourceSized fits.chosen.source_eq with ⟨elements, rfl, whole⟩
    rcases Buffer.exists_elements destinationSized fits.chosen.destination_eq with
      ⟨current, rfl, currentWhole⟩
    rw [foldlM_visited_eq_ok fits whole complete made currentWhole,
      foldlM_visited_eq_ok fits whole (fun _ => Iff.rfl) made currentWhole]

theorem execute_eq_rowMajor (fits : Routine.Fits kernel.plan kernel.routine)
    (sound : kernel.plan.Sound operator) {traversal : Traversal}
    (visits : traversal.VisitsOnce kernel.plan.batch kernel.plan.output.height
      kernel.plan.output.width) (source destination : Buffer) :
    kernel.execute traversal source destination =
      kernel.execute Traversal.rowMajor source destination := by
  rcases visits with ⟨visited, ordered, _, complete⟩
  rw [execute_rowMajor, execute]
  apply Outcome.bind_congr
  intro _ sourceChecked
  apply Outcome.bind_congr
  intro _ destinationChecked
  rw [ordered, Outcome.ok_bind]
  apply foldlM_visited_eq_pixels fits sound (Layout.byteSize_of_checkBuffer sourceChecked)
    (Layout.byteSize_of_checkBuffer destinationChecked)
  intro pixel
  rw [complete pixel, mem_pixels]

theorem runElements_eq_rowMajor (fits : Routine.Fits kernel.plan kernel.routine)
    (sound : kernel.plan.Sound operator) {traversal : Traversal}
    (visits : traversal.VisitsOnce kernel.plan.batch kernel.plan.output.height
      kernel.plan.output.width)
    {s d : ElementType} (input : List (Element s)) (output : List (Element d)) :
    (kernel.runElements traversal input output).outcome =
      (kernel.runElements Traversal.rowMajor input output).outcome := by
  unfold runElements
  split
  · rfl
  · split
    · rfl
    · simp only [run, execute_eq_rowMajor fits sound visits]

/-- A run returns for elements of the types of the kernel only. -/
theorem types_of_runElements {traversal : Traversal} {s d : ElementType}
    {input : List (Element s)} {output result : List (Element d)}
    (ran : (kernel.runElements traversal input output).outcome = .ok result) :
    kernel.plan.source = s.dataType ∧ kernel.plan.destination = d.dataType := by
  unfold runElements at ran
  split at ran
  · cases ran
  · rename_i sameSource
    split at ran
    · cases ran
    · rename_i sameDestination
      exact ⟨not_not.mp sameSource, not_not.mp sameDestination⟩

/-- A run that returns, in whatever order, has met no obstacle and gives the output elements. -/
theorem returned_of_runElements (fits : Routine.Fits kernel.plan kernel.routine)
    (sound : kernel.plan.Sound operator) {traversal : Traversal}
    (visits : traversal.VisitsOnce kernel.plan.batch kernel.plan.output.height
      kernel.plan.output.width)
    {input : List (Element kernel.routine.path.source)}
    {output result : List (Element kernel.routine.path.destination)}
    (ran : (kernel.runElements traversal input output).outcome = .ok result) :
    input.length = kernel.sourceLayout.count ∧ kernel.plan.Sized ∧ ¬kernel.plan.Heavy ∧
      result = (List.range kernel.plan.destinationLayout.count).map (kernel.outputAt input) := by
  rw [runElements_eq_rowMajor fits sound visits] at ran
  have explained := runElements_explained fits sound input output
  rcases run_conditions_of_absent (explained.succeeded_iff.mp ⟨result, ran⟩) with
    ⟨_, sourceSized, destinationSized, light⟩
  rw [← Buffer.size_ofElements] at sourceSized destinationSized
  have computed := runElements_eq_ok fits sound light sourceSized destinationSized
  exact ⟨Layout.length_of_byteSize sourceSized fits.chosen.source_eq,
    Plan.sized_of_byteSize sourceSized destinationSized, light,
    Except.ok.inj (ran.symm.trans computed)⟩

/-- What a run that returns tells about an output element. -/
structure Produced {s d : ElementType} (operator : Operator) (source : Layout)
    (input : List (Element s)) (image channel row column : Nat) (value : Element d) : Prop where
  reached : operator.tapPositions source.extent row column ≠ []
  found : ∀ position ∈ operator.tapPositions source.extent row column,
    input[source.place image channel position.1 position.2]? =
      some (input.getD (source.place image channel position.1 position.2) (Element.lowest s))
  divisor_pos : 0 < operator.divisor source.extent row column
  divisor_lt : operator.divisor source.extent row column < Size.limit
  value_eq : Direct.outputElement operator d
    (operator.tapElements source input image channel row column) = .ok value

/-- Every output element of a run that returns is what the definition of pooling makes of the
elements at the taps of its window. -/
theorem exists_output {source destination : Layout} {host : Capabilities} {options : Options}
    (built : (build operator source destination host options).outcome = .ok kernel)
    {traversal : Traversal}
    (visits : traversal.VisitsOnce destination.batch destination.extent.height
      destination.extent.width)
    {s d : ElementType} {input : List (Element s)} {output result : List (Element d)}
    (ran : (kernel.runElements traversal input output).outcome = .ok result)
    {image channel row column : Nat}
    (contained : destination.Contains image channel row column) :
    ∃ value, result[destination.place image channel row column]? = some value ∧
      Produced operator source input image channel row column value := by
  have conditions := built_of_build built
  have fits := conditions.fits
  have sound := conditions.planned.sound
  obtain rfl := conditions.planned.sourceLayout_eq
  obtain rfl := conditions.planned.destinationLayout_eq
  rcases types_of_runElements ran with ⟨sameSource, sameDestination⟩
  obtain rfl := fits.path_source sameSource
  obtain rfl := fits.path_destination sameDestination
  rcases returned_of_runElements fits sound visits ran with ⟨whole, sized, light, rfl⟩
  have placeLt := Layout.place_lt_count contained
  rcases contained with ⟨imageLt, channelLt, rowLt, columnLt⟩
  have pixelMem : (⟨image, row, column⟩ : Pixel) ∈ kernel.pixels :=
    mem_pixels.mpr ⟨imageLt, rowLt, columnLt⟩
  have divisorLt := weight_lt_of_not_heavy sound sized light pixelMem
  rw [Plan.weight_eq_divisor sound] at divisorLt
  refine ⟨kernel.outputElement input ⟨image, row, column⟩ channel, ?_, ?_⟩
  · rw [List.getElem?_map, List.getElem?_range placeLt]
    exact congrArg some
      (@outputAt_place kernel input ⟨image, row, column⟩ channel rowLt columnLt channelLt)
  · have including : operator.algorithm = .averageIncludingPadding →
        operator.kernel.height * operator.kernel.width < Size.limit := by
      intro isIncluding
      rw [Operator.divisor, isIncluding] at divisorLt
      exact divisorLt
    exact {
      reached := Plan.tapPositions_ne_nil sound rowLt columnLt
      found := by
        intro position positionMem
        rcases Operator.inside_of_mem_tapPositions positionMem with ⟨rowInside, columnInside⟩
        apply Sequence.getElem?_eq_some_getD
        rw [whole]
        exact Layout.place_lt_count ⟨imageLt, channelLt, rowInside, columnInside⟩
      divisor_pos := Plan.divisor_pos sound rowLt columnLt
      divisor_lt := divisorLt
      value_eq := @outputElement_tapElements operator kernel fits sound input
        ⟨image, row, column⟩ including channel }

end Kernel

end IntegerPooling
