import IntegerPooling.Proofs.Kernel.Confinement
import IntegerPooling.Proofs.Kernel.Soundness

/-!
# What a run of a kernel leads to

A run of a built kernel fails for the first obstacle that stands against it and for nothing else
(`run_decided`): element types and buffer sizes that are not those of the kernel, and the size of
the kernel when an output pixel needs it and a machine word cannot carry it. Windows, offsets and
addresses never stop it. A run that succeeds has written every element of its destination.
-/

namespace IntegerPooling

namespace Layout

/-- What can stand against a buffer of a number of bytes. -/
def bufferObstacles (layout : Layout) (side : Side) (given : Nat) : List (Cause Fault) :=
  [⟨layout.Oversized, .overflow .multiply⟩,
    ⟨layout.count * layout.dataType.size ≠ given,
      .bufferSize side (layout.count * layout.dataType.size) given⟩]

theorem checkBuffer_explained (layout : Layout) (side : Side) (buffer : Buffer) :
    Cause.Explains (layout.bufferObstacles side buffer.size)
      (layout.checkBuffer side buffer) := by
  apply Cause.Explains.cons
  · intro oversized
    rw [checkBuffer, byteSize_of_oversized oversized]
    rfl
  · intro fits
    rw [checkBuffer, byteSize_of_not_oversized fits, Outcome.ok_bind]
    apply Cause.Explains.cons
    · intro different
      exact if_neg (Ne.symm different)
    · intro same
      rw [if_pos (Decidable.not_not.mp same).symm]
      exact Cause.Explains.nil ()

theorem absent_bufferObstacles_iff {layout : Layout} {side : Side} {given : Nat} :
    Cause.Absent (layout.bufferObstacles side given) ↔ layout.byteSize = .ok given := by
  rw [byteSize_eq_ok_iff, bufferObstacles, Cause.absent_cons, Cause.absent_cons]
  simp [Cause.Absent, eq_comm]

theorem byteSize_of_checkBuffer {layout : Layout} {side : Side} {buffer : Buffer}
    (checked : layout.checkBuffer side buffer = .ok ()) : layout.byteSize = .ok buffer.size :=
  absent_bufferObstacles_iff.mp
    ((layout.checkBuffer_explained side buffer).succeeded_iff.mp ⟨(), checked⟩)

end Layout

namespace Plan

/-- Whether some output pixel needs the size of a kernel that a machine word cannot carry. -/
def Heavy (plan : Plan) : Prop :=
  (0 < plan.batch ∧ 0 < plan.output.height ∧ 0 < plan.output.width) ∧
    plan.algorithm ≠ .averageExcludingPadding ∧
    Size.limit ≤ plan.kernel.height * plan.kernel.width

theorem weight_of_not_excluding {plan : Plan} (window : Window)
    (including : plan.algorithm ≠ .averageExcludingPadding) :
    plan.weight window = plan.kernel.height * plan.kernel.width := by
  unfold weight
  split
  · exact absurd ‹_› including
  · rfl
  · rfl

/-- What can stand against a run over buffers of two sizes, in the order in which it is reported. -/
def executionObstacles (plan : Plan) (sourceBytes destinationBytes : Nat) : List (Cause Fault) :=
  plan.sourceLayout.bufferObstacles .source sourceBytes ++
    (plan.destinationLayout.bufferObstacles .destination destinationBytes ++
      [⟨plan.Heavy, .overflow .multiply⟩])

/-- What can stand against a run over lists of elements, in the order in which it is reported. -/
def runObstacles (plan : Plan) (s d : ElementType) (sourceLength destinationLength : Nat) :
    List (Cause Fault) :=
  ⟨plan.source ≠ s.dataType, .elementType .source plan.source s.dataType⟩ ::
    ⟨plan.destination ≠ d.dataType, .elementType .destination plan.destination d.dataType⟩ ::
      plan.executionObstacles (sourceLength * s.size) (destinationLength * d.size)

end Plan

namespace Kernel

variable {kernel : Kernel} {operator : Operator}

theorem weight_lt_of_not_heavy (sound : kernel.plan.Sound operator) (sized : kernel.plan.Sized)
    (light : ¬kernel.plan.Heavy) {pixel : Pixel} (pixelMem : pixel ∈ kernel.pixels) :
    kernel.plan.weight (kernel.plan.clippedWindow pixel) < Size.limit := by
  have within := mem_pixels.mp pixelMem
  by_cases excluding : kernel.plan.algorithm = .averageExcludingPadding
  · exact Plan.weight_lt_of_excluding (Plan.callable_of_sound sound sized within) sized within.1
      sound.channels_pos excluding
  · rw [Plan.weight_of_not_excluding _ excluding]
    apply Nat.lt_of_not_le
    intro large
    exact light ⟨pixels_ne_nil_iff.mp (List.ne_nil_of_mem pixelMem), excluding, large⟩

theorem calls_of_not_heavy (sound : kernel.plan.Sound operator) (sized : kernel.plan.Sized)
    (light : ¬kernel.plan.Heavy) :
    ∀ pixel ∈ kernel.pixels, ∃ call, kernel.plan.call pixel = .ok call := by
  intro pixel pixelMem
  have callable := Plan.callable_of_sound sound sized (mem_pixels.mp pixelMem)
  exact ⟨_, Plan.call_of_lt callable (weight_lt_of_not_heavy sound sized light pixelMem)⟩

theorem calls_of_heavy (sound : kernel.plan.Sound operator) (sized : kernel.plan.Sized)
    (heavy : kernel.plan.Heavy) :
    ∀ pixel ∈ kernel.pixels, kernel.plan.call pixel = .error (.overflow .multiply) := by
  rcases heavy with ⟨_, including, large⟩
  intro pixel pixelMem
  apply Plan.call_of_le (Plan.callable_of_sound sound sized (mem_pixels.mp pixelMem))
  rw [Plan.weight_of_not_excluding _ including]
  exact large

theorem pixels_explained (fits : Routine.Fits kernel.plan kernel.routine)
    (sound : kernel.plan.Sound operator) (sized : kernel.plan.Sized)
    {elements : List (Element kernel.routine.path.source)}
    (whole : elements.length = kernel.plan.sourceLayout.count)
    {current : List (Element kernel.routine.path.destination)}
    (currentWhole : current.length = kernel.plan.destinationLayout.count) :
    Cause.Explains [⟨kernel.plan.Heavy, .overflow .multiply⟩]
      (kernel.pixels.foldlM (kernel.runPixel (Buffer.ofElements elements))
        (Buffer.ofElements current)) := by
  apply Cause.Explains.cons
  · intro heavy
    exact foldlM_visited_eq_error (calls_of_heavy sound sized heavy)
      (pixels_ne_nil_iff.mpr heavy.1)
  · intro light
    rw [foldlM_visited_eq_ok fits whole (fun _ => Iff.rfl)
      (calls_of_not_heavy sound sized light) currentWhole]
    exact Cause.Explains.nil _

theorem execute_explained (fits : Routine.Fits kernel.plan kernel.routine)
    (sound : kernel.plan.Sound operator) (source destination : Buffer) :
    Cause.Explains (kernel.plan.executionObstacles source.size destination.size)
      (kernel.execute Traversal.rowMajor source destination) := by
  rw [execute_rowMajor]
  apply Cause.Explains.bind (Layout.checkBuffer_explained _ _ _)
  intro _ sourceChecked
  apply Cause.Explains.bind (Layout.checkBuffer_explained _ _ _)
  intro _ destinationChecked
  have sourceSized := Layout.byteSize_of_checkBuffer sourceChecked
  have destinationSized := Layout.byteSize_of_checkBuffer destinationChecked
  rcases Buffer.exists_elements sourceSized fits.chosen.source_eq with ⟨elements, rfl, whole⟩
  rcases Buffer.exists_elements destinationSized fits.chosen.destination_eq with
    ⟨current, rfl, currentWhole⟩
  exact pixels_explained fits sound (Plan.sized_of_byteSize sourceSized destinationSized) whole
    currentWhole

theorem runElements_of_fits (fits : Routine.Fits kernel.plan kernel.routine)
    (traversal : Traversal) (input : List (Element kernel.routine.path.source))
    (output : List (Element kernel.routine.path.destination)) :
    (kernel.runElements traversal input output).outcome =
      (kernel.execute traversal (Buffer.ofElements input) (Buffer.ofElements output)).map
        (Buffer.toElements kernel.routine.path.destination) := by
  have sourceEq := fits.chosen.source_eq.symm
  have destinationEq := fits.chosen.destination_eq.symm
  rw [runElements, if_neg (not_not.mpr sourceEq), if_neg (not_not.mpr destinationEq)]
  rfl

/-- A run without an obstacle gives the output element of every place. -/
theorem runElements_eq_ok (fits : Routine.Fits kernel.plan kernel.routine)
    (sound : kernel.plan.Sound operator) (light : ¬kernel.plan.Heavy)
    {input : List (Element kernel.routine.path.source)}
    (sourceSized : kernel.sourceLayout.byteSize = .ok (Buffer.ofElements input).size)
    {output : List (Element kernel.routine.path.destination)}
    (destinationSized : kernel.destinationLayout.byteSize = .ok (Buffer.ofElements output).size) :
    (kernel.runElements Traversal.rowMajor input output).outcome =
      .ok ((List.range kernel.plan.destinationLayout.count).map (kernel.outputAt input)) := by
  have sized := Plan.sized_of_byteSize sourceSized destinationSized
  have whole := Layout.length_of_byteSize sourceSized fits.chosen.source_eq
  have currentWhole := Layout.length_of_byteSize destinationSized fits.chosen.destination_eq
  rw [runElements_of_fits fits, execute_rowMajor, checkBuffer_of_sized .source sourceSized,
    checkBuffer_of_sized .destination destinationSized, Outcome.ok_bind, Outcome.ok_bind,
    foldlM_visited_eq_ok fits whole (fun _ => Iff.rfl) (calls_of_not_heavy sound sized light)
      currentWhole]
  change Except.ok _ = _
  rw [Buffer.toElements_ofElements]

theorem runElements_explained (fits : Routine.Fits kernel.plan kernel.routine)
    (sound : kernel.plan.Sound operator) {s d : ElementType} (input : List (Element s))
    (output : List (Element d)) :
    Cause.Explains (kernel.plan.runObstacles s d input.length output.length)
      (kernel.runElements Traversal.rowMajor input output).outcome := by
  apply Cause.Explains.cons
  · intro different
    rw [runElements, if_pos different]
  · intro sameSource
    apply Cause.Explains.cons
    · intro different
      rw [runElements, if_neg sameSource, if_pos different]
    · intro sameDestination
      obtain rfl := fits.path_source (not_not.mp sameSource)
      obtain rfl := fits.path_destination (not_not.mp sameDestination)
      rw [runElements_of_fits fits, Outcome.map_eq_bind, ← Buffer.size_ofElements input,
        ← Buffer.size_ofElements output]
      exact (execute_explained fits sound _ _).map _

/-- Nothing stands against a run exactly if it has the types and the sizes of its kernel, and the
size of the kernel is not needed where a machine word cannot carry it. -/
theorem absent_runObstacles_iff {s d : ElementType} {sourceLength destinationLength : Nat} :
    Cause.Absent (kernel.plan.runObstacles s d sourceLength destinationLength) ↔
      (kernel.plan.source = s.dataType ∧ kernel.plan.destination = d.dataType) ∧
        kernel.sourceLayout.byteSize = .ok (sourceLength * s.size) ∧
        kernel.destinationLayout.byteSize = .ok (destinationLength * d.size) ∧
        ¬kernel.plan.Heavy := by
  simp only [Plan.runObstacles, Plan.executionObstacles, Cause.absent_cons, Cause.absent_append,
    Layout.absent_bufferObstacles_iff, not_not]
  constructor
  · rintro ⟨sameSource, sameDestination, sourceSized, destinationSized, light, _⟩
    exact ⟨⟨sameSource, sameDestination⟩, sourceSized, destinationSized, light⟩
  · rintro ⟨⟨sameSource, sameDestination⟩, sourceSized, destinationSized, light⟩
    exact ⟨sameSource, sameDestination, sourceSized, destinationSized, light, List.forall_mem_nil _⟩

/-- A run that nothing stands against has the types and the sizes of its kernel. -/
theorem run_conditions_of_absent {s d : ElementType} {sourceLength destinationLength : Nat}
    (absent : Cause.Absent (kernel.plan.runObstacles s d sourceLength destinationLength)) :
    (kernel.plan.source = s.dataType ∧ kernel.plan.destination = d.dataType) ∧
      kernel.sourceLayout.byteSize = .ok (sourceLength * s.size) ∧
      kernel.destinationLayout.byteSize = .ok (destinationLength * d.size) ∧
      ¬kernel.plan.Heavy :=
  absent_runObstacles_iff.mp absent

/-- Every place of the destination is written by the pixel it belongs to. -/
theorem exists_write (fits : Routine.Fits kernel.plan kernel.routine)
    (sound : kernel.plan.Sound operator) (sized : kernel.plan.Sized) (light : ¬kernel.plan.Heavy)
    {elements : List (Element kernel.routine.path.source)}
    (whole : elements.length = kernel.plan.sourceLayout.count) {place : Nat}
    (placeLt : place < kernel.plan.destinationLayout.count) :
    ∃ pixel ∈ kernel.pixels, ∃ writes,
      kernel.pixelWrites (Buffer.ofElements elements) pixel = .ok writes ∧
        (place * kernel.routine.path.destination.size, kernel.outputAt elements place) ∈
          writes := by
  have owned : place ∈ kernel.pixels.flatMap kernel.plan.pixelPlaces := by
    rw [pixels, Plan.flatMap_pixelPlaces]
    exact List.mem_range.mpr placeLt
  rcases List.mem_flatMap.mp owned with ⟨pixel, pixelMem, placeMem⟩
  rcases calls_of_not_heavy sound sized light pixel pixelMem with ⟨call, made⟩
  exact ⟨pixel, pixelMem, _,
    pixelWrites_eq_outputAt fits whole (mem_pixels.mp pixelMem) made,
    List.mem_map.mpr ⟨place, placeMem, rfl⟩⟩

/-- The first obstacle that applies decides the outcome of a run of a built kernel. Without one
the run returns a list in which every element was written by an output pixel, so what the
destination held before makes no difference. Once the sizes of both tensors can be counted,
every output pixel has a window and offsets that fit. -/
theorem run_decided {source destination : Layout} {host : Capabilities}
    {options : Options} (built : (build operator source destination host options).outcome =
      .ok kernel) {s d : ElementType} (input : List (Element s)) (output : List (Element d)) :
    Cause.Explains (kernel.plan.runObstacles s d input.length output.length)
        (kernel.runElements Traversal.rowMajor input output).outcome ∧
      (∀ result, (kernel.runElements Traversal.rowMajor input output).outcome = .ok result →
        result.length = output.length ∧
          (∀ place < result.length, ∃ pixel ∈ kernel.pixels, ∃ writes,
            kernel.pixelWrites (Buffer.ofElements input) pixel = .ok writes ∧
              ∃ write ∈ writes, write.1 = place * d.size ∧
                (result[place]?).map Element.val = some write.2.val) ∧
          ∀ other : List (Element d), other.length = output.length →
            (kernel.runElements Traversal.rowMajor input other).outcome = .ok result) ∧
      (kernel.plan.Sized → ∀ pixel ∈ kernel.pixels, kernel.plan.Callable pixel) := by
  have conditions := built_of_build built
  have fits := conditions.fits
  have sound := conditions.planned.sound
  have explained := runElements_explained fits sound input output
  refine ⟨explained, ?_, ?_⟩
  · intro result succeeded
    rcases run_conditions_of_absent (explained.succeeded_iff.mp ⟨result, succeeded⟩) with
      ⟨⟨sameSource, sameDestination⟩, sourceSized, destinationSized, light⟩
    obtain rfl : kernel.routine.path.source = s :=
      ElementType.dataType_injective (fits.chosen.source_eq.trans sameSource)
    obtain rfl : kernel.routine.path.destination = d :=
      ElementType.dataType_injective (fits.chosen.destination_eq.trans sameDestination)
    rw [← Buffer.size_ofElements] at sourceSized
    have computed : ∀ other : List (Element kernel.routine.path.destination),
        other.length = output.length →
          (kernel.runElements Traversal.rowMajor input other).outcome =
            .ok ((List.range kernel.plan.destinationLayout.count).map (kernel.outputAt input)) := by
      intro other sameLength
      rw [← sameLength, ← Buffer.size_ofElements] at destinationSized
      exact runElements_eq_ok fits sound light sourceSized destinationSized
    have resultEq := succeeded.symm.trans (computed output rfl)
    cases resultEq
    have sized : kernel.plan.Sized := ⟨(Layout.byteSize_eq_ok_iff.mp sourceSized).1,
      (Layout.byteSize_eq_ok_iff.mp destinationSized).1⟩
    rw [← Buffer.size_ofElements] at destinationSized
    have whole := Layout.length_of_byteSize sourceSized fits.chosen.source_eq
    have currentWhole := Layout.length_of_byteSize destinationSized fits.chosen.destination_eq
    refine ⟨?_, ?_, computed⟩
    · rw [List.length_map, List.length_range]
      exact currentWhole.symm
    · intro place placeLt
      rw [List.length_map, List.length_range] at placeLt
      rcases exists_write fits sound sized light whole placeLt with
        ⟨pixel, pixelMem, writes, written, writeMem⟩
      refine ⟨pixel, pixelMem, writes, written, _, writeMem, rfl, ?_⟩
      simp [placeLt]
  · intro sized pixel pixelMem
    exact Plan.callable_of_sound sound sized (mem_pixels.mp pixelMem)

theorem run_decided_hugeKernel :
    ∃ kernel : Kernel,
      (build
        ⟨.maximum, ⟨4294967296, 4294967296⟩, ⟨1, 1⟩, ⟨4294967295, 4294967295⟩, ⟨0, 0⟩⟩
        ⟨1, 1, ⟨1, 1⟩, .u8⟩ ⟨1, 1, ⟨1, 1⟩, .u8⟩ .full .standard).outcome = .ok kernel ∧
      (kernel.runElements Traversal.rowMajor [Element.lowest .u8] [Element.lowest .u8]).outcome =
        .error (.overflow .multiply) := by
  have built : (build
      ⟨.maximum, ⟨4294967296, 4294967296⟩, ⟨1, 1⟩, ⟨4294967295, 4294967295⟩, ⟨0, 0⟩⟩
      ⟨1, 1, ⟨1, 1⟩, .u8⟩ ⟨1, 1, ⟨1, 1⟩, .u8⟩ .full .standard).outcome =
        .ok ⟨⟨.maximum, 1, 1, ⟨1, 1⟩, ⟨1, 1⟩, ⟨4294967296, 4294967296⟩, ⟨1, 1⟩,
          ⟨4294967295, 4294967295⟩, .u8, .u8, .wide, 32, 1⟩,
          ⟨.maximum .u8, ⟨1, 1, 1⟩, 32, .wide⟩⟩ := by cbv
  have decided := (run_decided built [Element.lowest .u8] [Element.lowest .u8]).1
  refine ⟨_, built, (decided.failed_iff _).mpr ?_⟩
  simp [Plan.runObstacles, Plan.executionObstacles, Layout.bufferObstacles, Cause.Decides,
    Layout.Oversized, Layout.Uncountable, Layout.count, Plan.Heavy, Plan.sourceLayout,
    Plan.destinationLayout, Size.limit, ElementType.size, ElementType.dataType, DataType.size]

end Kernel

end IntegerPooling
