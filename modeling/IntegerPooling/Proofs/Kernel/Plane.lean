import IntegerPooling.Proofs.Kernel.Output
import IntegerPooling.Proofs.Layout.Enumeration

/-!
# Planes are pooled alone

The elements of one channel of one image are a plane. A kernel that can be built for a tensor can
also be built for a tensor of a single plane, where every channel is in the tail of its row and
stepping a column moves by one element; and run on a plane of the source it gives the same plane
of the output (`run_plane`). Both runs give what the definition of pooling makes of the elements
at the taps of their windows, and the taps of a window stay in the plane of its output element, so
all that has to be followed through are the places of elements.
-/

namespace IntegerPooling

namespace Layout

variable {layout : Layout} {t : ElementType}

/-- The layout of one channel of one image. -/
def plane (layout : Layout) : Layout :=
  { layout with batch := 1, channels := 1 }

@[simp] theorem dataType_plane (layout : Layout) : layout.plane.dataType = layout.dataType := rfl

@[simp] theorem place_plane (layout : Layout) (row column : Nat) :
    layout.plane.place 0 0 row column = row * layout.extent.width + column := by
  simp [place, plane]

@[simp] theorem count_plane (layout : Layout) :
    layout.plane.count = layout.extent.height * layout.extent.width := by
  simp [count, plane]

theorem contains_plane {row column : Nat} (rowLt : row < layout.extent.height)
    (columnLt : column < layout.extent.width) : layout.plane.Contains 0 0 row column :=
  ⟨Nat.one_pos, Nat.one_pos, rowLt, columnLt⟩

/-- The bytes of a plane can be counted if those of the tensor can. -/
theorem not_oversized_plane {image channel : Nat} (imageLt : image < layout.batch)
    (channelLt : channel < layout.channels) (fits : ¬layout.Oversized) :
    ¬layout.plane.Oversized := by
  have planesPos : 0 < layout.batch * layout.channels :=
    Nat.mul_pos (Nat.zero_lt_of_lt imageLt) (Nat.zero_lt_of_lt channelLt)
  have heightLe := Nat.le_mul_of_pos_left layout.extent.height planesPos
  have countLe : layout.plane.count ≤ layout.count := by
    rw [count_plane, count]
    exact Nat.mul_le_mul_right layout.extent.width heightLe
  have bytesLe := Nat.mul_le_mul_right layout.dataType.size countLe
  simp only [Oversized, Uncountable, not_or, Nat.not_le] at fits ⊢
  refine ⟨⟨?_, ?_, ?_⟩, ?_⟩
  · simp [plane, Size.limit]
  · simp only [plane, Nat.one_mul]
    omega
  · omega
  · simp only [dataType_plane]
    omega

theorem byteSize_plane {image channel bytes : Nat} (imageLt : image < layout.batch)
    (channelLt : channel < layout.channels) (typeEq : layout.dataType = t.dataType)
    (sized : layout.byteSize = .ok bytes) :
    layout.plane.byteSize = .ok (layout.plane.count * t.size) := by
  have fits := not_oversized_plane imageLt channelLt (byteSize_eq_ok_iff.mp sized).1
  rw [byteSize_of_not_oversized fits, dataType_plane, typeEq, ElementType.size_dataType]

/-- The elements of one channel of one image, row by row. -/
def planeElements (layout : Layout) (elements : List (Element t)) (image channel : Nat) :
    List (Element t) :=
  (List.range layout.extent.height).flatMap fun row =>
    (List.range layout.extent.width).map fun column =>
      elements.getD (layout.place image channel row column) (Element.lowest t)

theorem planeElements_eq (layout : Layout) (elements : List (Element t)) (image channel : Nat) :
    layout.planeElements elements image channel =
      (List.range layout.plane.count).map fun number => elements.getD
        (layout.place image channel (number / layout.extent.width) (number % layout.extent.width))
        (Element.lowest t) := by
  rw [count_plane, ← Sequence.flatMap_range_map]
  apply List.flatMap_congr
  intro row _
  apply List.map_congr_left
  intro column columnMem
  have columnLt := List.mem_range.mp columnMem
  simp only [Sequence.number_div row columnLt, Sequence.number_mod row columnLt]

@[simp] theorem length_planeElements (layout : Layout) (elements : List (Element t))
    (image channel : Nat) :
    (layout.planeElements elements image channel).length = layout.plane.count := by
  simp [planeElements_eq]

theorem getElem?_planeElements (layout : Layout) (elements : List (Element t))
    (image channel : Nat) {row column : Nat} (rowLt : row < layout.extent.height)
    (columnLt : column < layout.extent.width) :
    (layout.planeElements elements image channel)[layout.plane.place 0 0 row column]? =
      some (elements.getD (layout.place image channel row column) (Element.lowest t)) := by
  have placeLt := place_lt_count (contains_plane rowLt columnLt)
  rw [planeElements_eq, List.getElem?_map, List.getElem?_range placeLt]
  simp [Sequence.number_div row columnLt, Sequence.number_mod row columnLt]

/-- Elements outside a plane make no difference to it. -/
theorem planeElements_congr {elements others : List (Element t)} {image channel : Nat}
    (same : ∀ row column, row < layout.extent.height → column < layout.extent.width →
      others[layout.place image channel row column]? =
        elements[layout.place image channel row column]?) :
    layout.planeElements others image channel = layout.planeElements elements image channel := by
  apply List.flatMap_congr
  intro row rowMem
  apply List.map_congr_left
  intro column columnMem
  have sameElement := same row column (List.mem_range.mp rowMem) (List.mem_range.mp columnMem)
  simp only [List.getD_eq_getElem?_getD, sameElement]

/-- A list of the right length is a plane if it has its elements at all rows and columns. -/
theorem eq_planeElements {elements members : List (Element t)} {image channel : Nat}
    (whole : members.length = layout.plane.count)
    (same : ∀ row column, row < layout.extent.height → column < layout.extent.width →
      ∃ value, members[layout.plane.place 0 0 row column]? = some value ∧
        elements[layout.place image channel row column]? = some value) :
    members = layout.planeElements elements image channel := by
  apply ext_placeAt whole (layout.length_planeElements elements image channel)
  rintro ⟨planeImage, row, column, planeChannel⟩ ⟨imageLt, channelLt, rowLt, columnLt⟩
  -- A plane has one image and one channel.
  obtain rfl : planeImage = 0 := Nat.lt_one_iff.mp imageLt
  obtain rfl : planeChannel = 0 := Nat.lt_one_iff.mp channelLt
  rcases same row column rowLt columnLt with ⟨value, isMember, isElement⟩
  have isPlane := layout.getElem?_planeElements elements image channel rowLt columnLt
  rw [List.getD_eq_getElem?_getD, isElement, Option.getD_some] at isPlane
  exact isMember.trans isPlane.symm

end Layout

namespace Operator

/-- The taps of a window stay in the plane of the window. -/
theorem tapElements_plane {t : ElementType} (operator : Operator) (layout : Layout)
    (elements : List (Element t)) (image channel row column : Nat) :
    operator.tapElements layout.plane (layout.planeElements elements image channel) 0 0 row
        column =
      operator.tapElements layout elements image channel row column := by
  apply List.map_congr_left
  intro position positionMem
  rcases inside_of_mem_tapPositions positionMem with ⟨rowLt, columnLt⟩
  rw [List.getD_eq_getElem?_getD,
    layout.getElem?_planeElements elements image channel rowLt columnLt, Option.getD_some]

/-- What is asked of two lists to be pooled one into the other, whatever the kernel: their types,
their lengths, and that the size of the window fits a machine word where it is needed. -/
structure Admits (operator : Operator) (source destination : Layout) (s d : ElementType)
    (sourceLength destinationLength : Nat) : Prop where
  source_eq : source.dataType = s.dataType
  destination_eq : destination.dataType = d.dataType
  source_sized : source.byteSize = .ok (sourceLength * s.size)
  destination_sized : destination.byteSize = .ok (destinationLength * d.size)
  light : 0 < destination.batch → 0 < destination.extent.height → 0 < destination.extent.width →
    operator.algorithm ≠ .averageExcludingPadding →
      operator.kernel.height * operator.kernel.width < Size.limit

theorem Admits.plane {operator : Operator} {source destination : Layout} {s d : ElementType}
    {sourceLength destinationLength : Nat}
    (admits : operator.Admits source destination s d sourceLength destinationLength)
    {image channel : Nat} (inSource : image < source.batch ∧ channel < source.channels)
    (inDestination : image < destination.batch ∧ channel < destination.channels) :
    operator.Admits source.plane destination.plane s d source.plane.count
      destination.plane.count := by
  exact {
    source_eq := admits.source_eq
    destination_eq := admits.destination_eq
    source_sized :=
      Layout.byteSize_plane inSource.1 inSource.2 admits.source_eq admits.source_sized
    destination_sized := Layout.byteSize_plane inDestination.1 inDestination.2
      admits.destination_eq admits.destination_sized
    light := by
      intro _ heightPos widthPos
      exact admits.light (Nat.zero_lt_of_lt inDestination.1) heightPos widthPos }

end Operator

namespace Kernel

variable {operator : Operator} {source destination : Layout} {host : Capabilities}
  {options : Options} {kernel : Kernel} {traversal : Traversal} {s d : ElementType}

/-- Whether a run of a built kernel returns depends on the operator, the layouts and the lists. -/
theorem returns_iff
    (built : (build operator source destination host options).outcome = .ok kernel)
    (visits : traversal.VisitsOnce destination.batch destination.extent.height
      destination.extent.width) (input : List (Element s)) (output : List (Element d)) :
    (∃ result, (kernel.runElements traversal input output).outcome = .ok result) ↔
      operator.Admits source destination s d input.length output.length := by
  have conditions := built_of_build built
  have sound := conditions.planned.sound
  obtain rfl := conditions.planned.sourceLayout_eq
  obtain rfl := conditions.planned.destinationLayout_eq
  have light : ¬kernel.plan.Heavy ↔
      (0 < kernel.plan.batch → 0 < kernel.plan.output.height → 0 < kernel.plan.output.width →
        operator.algorithm ≠ .averageExcludingPadding →
          operator.kernel.height * operator.kernel.width < Size.limit) := by
    simp only [Plan.Heavy, sound.algorithm_eq, sound.kernel_eq, not_and, Nat.not_le, and_imp]
  rw [runElements_eq_rowMajor conditions.fits sound visits,
    (runElements_explained conditions.fits sound input output).succeeded_iff,
    absent_runObstacles_iff, light]
  constructor
  · rintro ⟨⟨sameSource, sameDestination⟩, sourceSized, destinationSized, isLight⟩
    exact ⟨sameSource, sameDestination, sourceSized, destinationSized, isLight⟩
  · rintro ⟨sameSource, sameDestination, sourceSized, destinationSized, isLight⟩
    exact ⟨⟨sameSource, sameDestination⟩, sourceSized, destinationSized, isLight⟩

theorem length_of_returned
    (built : (build operator source destination host options).outcome = .ok kernel)
    (visits : traversal.VisitsOnce destination.batch destination.extent.height
      destination.extent.width) {input : List (Element s)} {output result : List (Element d)}
    (ran : (kernel.runElements traversal input output).outcome = .ok result) :
    result.length = destination.count := by
  have conditions := built_of_build built
  obtain rfl := conditions.planned.destinationLayout_eq
  rcases types_of_runElements ran with ⟨sameSource, sameDestination⟩
  obtain rfl := conditions.fits.path_source sameSource
  obtain rfl := conditions.fits.path_destination sameDestination
  rcases returned_of_runElements conditions.fits conditions.planned.sound visits ran with
    ⟨_, _, _, rfl⟩
  rw [List.length_map, List.length_range]

/-- What can be built for a tensor can be built for one of its planes. -/
theorem exists_build_plane
    (built : (build operator source destination host options).outcome = .ok kernel) :
    ∃ single, (build operator source.plane destination.plane host options).outcome =
      .ok single := by
  rcases exists_build_iff.mp ⟨kernel, built⟩ with ⟨settled, typed, shaped, row⟩
  apply exists_build_iff.mpr
  refine ⟨settled, typed, ?_, ?_⟩
  · simp only [Operator.shapeObstacles, Cause.absent_cons] at shaped ⊢
    rcases shaped with ⟨_, _, shaped⟩
    exact ⟨by simp [Layout.plane], by simp [Layout.plane], shaped⟩
  · have channelsPos := (built_of_build built).planned.suits.channels_pos
    have widthLe := Nat.le_mul_of_pos_right source.extent.width channelsPos
    simp only [Layout.plane, Nat.mul_one]
    omega

/-- All that a run on a plane can return is the same plane of the output. -/
theorem eq_planeElements_of_returned
    (built : (build operator source destination host options).outcome = .ok kernel)
    (visits : traversal.VisitsOnce destination.batch destination.extent.height
      destination.extent.width) {input : List (Element s)} {output result : List (Element d)}
    (ran : (kernel.runElements traversal input output).outcome = .ok result)
    {image channel : Nat} (imageLt : image < destination.batch)
    (channelLt : channel < destination.channels)
    {otherHost : Capabilities} {otherOptions : Options} {single : Kernel}
    (builtSingle : (build operator source.plane destination.plane otherHost otherOptions).outcome =
      .ok single) {other : Traversal}
    (visitsSingle : other.VisitsOnce 1 destination.extent.height destination.extent.width)
    {fresh alone : List (Element d)}
    (ranSingle : (single.runElements other (source.planeElements input image channel)
      fresh).outcome = .ok alone) :
    alone = destination.planeElements result image channel := by
  apply Layout.eq_planeElements (length_of_returned builtSingle visitsSingle ranSingle)
  intro row column rowLt columnLt
  rcases exists_output built visits ran ⟨imageLt, channelLt, rowLt, columnLt⟩ with
    ⟨value, isOutput, produced⟩
  rcases exists_output builtSingle visitsSingle ranSingle
    (Layout.contains_plane rowLt columnLt) with ⟨aloneValue, isAlone, producedAlone⟩
  -- Both elements are made of the elements at the same taps.
  have computed := producedAlone.value_eq
  rw [Operator.tapElements_plane, produced.value_eq] at computed
  cases computed
  exact ⟨value, isAlone, isOutput⟩

/-- A run on a plane returns if the run on the tensor does, and gives the same plane. -/
theorem runElements_plane_eq_ok
    (built : (build operator source destination host options).outcome = .ok kernel)
    (visits : traversal.VisitsOnce destination.batch destination.extent.height
      destination.extent.width) {input : List (Element s)} {output result : List (Element d)}
    (ran : (kernel.runElements traversal input output).outcome = .ok result)
    {image channel : Nat} (imageLt : image < source.batch) (channelLt : channel < source.channels)
    {otherHost : Capabilities} {otherOptions : Options} {single : Kernel}
    (builtSingle : (build operator source.plane destination.plane otherHost otherOptions).outcome =
      .ok single) {other : Traversal}
    (visitsSingle : other.VisitsOnce 1 destination.extent.height destination.extent.width)
    {fresh : List (Element d)} (freshLength : fresh.length = destination.plane.count) :
    (single.runElements other (source.planeElements input image channel) fresh).outcome =
      .ok (destination.planeElements result image channel) := by
  have suits := (built_of_build built).planned.suits
  have imageLtOutput : image < destination.batch := by rwa [suits.batch_eq]
  have channelLtOutput : channel < destination.channels := by rwa [suits.channels_eq]
  have admits := (returns_iff built visits input output).mp ⟨result, ran⟩
  have admitsPlane := admits.plane ⟨imageLt, channelLt⟩ ⟨imageLtOutput, channelLtOutput⟩
  rw [← freshLength, ← source.length_planeElements input image channel] at admitsPlane
  rcases (returns_iff builtSingle visitsSingle _ fresh).mpr admitsPlane with ⟨alone, ranSingle⟩
  rw [ranSingle, eq_planeElements_of_returned built visits ran imageLtOutput channelLtOutput
    builtSingle visitsSingle ranSingle]

/-- Each plane of the output is what a kernel for a single plane makes of the same plane of the
source, whatever hosts and options the two kernels were built for and in whatever orders they
visit the pixels. Elements of the source outside the plane make no difference to it. -/
theorem run_plane
    (built : (build operator source destination host options).outcome = .ok kernel)
    (visits : traversal.VisitsOnce destination.batch destination.extent.height
      destination.extent.width) {input : List (Element s)} {output result : List (Element d)}
    (ran : (kernel.runElements traversal input output).outcome = .ok result)
    {image channel : Nat} (imageLt : image < source.batch) (channelLt : channel < source.channels) :
    (∃ single, (build operator source.plane destination.plane host options).outcome =
      .ok single) ∧
    (∀ (otherHost : Capabilities) (otherOptions : Options) (single : Kernel),
      (build operator source.plane destination.plane otherHost otherOptions).outcome =
          .ok single →
        ∀ other : Traversal,
          other.VisitsOnce 1 destination.extent.height destination.extent.width →
          ∀ fresh : List (Element d), fresh.length = destination.plane.count →
            (single.runElements other (source.planeElements input image channel) fresh).outcome =
              .ok (destination.planeElements result image channel)) ∧
    ∀ changed : List (Element s), changed.length = input.length →
      (∀ row column, row < source.extent.height → column < source.extent.width →
        changed[source.place image channel row column]? =
          input[source.place image channel row column]?) →
      ∃ others, (kernel.runElements traversal changed output).outcome = .ok others ∧
        destination.planeElements others image channel =
          destination.planeElements result image channel := by
  rcases exists_build_plane built with ⟨standard, builtStandard⟩
  refine ⟨⟨standard, builtStandard⟩, ?_, ?_⟩
  · intro otherHost otherOptions single builtSingle other visitsSingle fresh freshLength
    exact runElements_plane_eq_ok built visits ran imageLt channelLt builtSingle visitsSingle
      freshLength
  · intro changed sameLength samePlane
    have admits := (returns_iff built visits input output).mp ⟨result, ran⟩
    rw [← sameLength] at admits
    rcases (returns_iff built visits changed output).mpr admits with ⟨others, ranChanged⟩
    refine ⟨others, ranChanged, ?_⟩
    -- One run on the common plane of the two sources gives both planes.
    have visitsSingle := Traversal.visitsOnce_rowMajor 1 destination.extent.height
      destination.extent.width
    have freshLength : (List.replicate destination.plane.count (Element.lowest d)).length =
        destination.plane.count := List.length_replicate
    have before := runElements_plane_eq_ok built visits ran imageLt channelLt builtStandard
      visitsSingle freshLength
    have after := runElements_plane_eq_ok built visits ranChanged imageLt channelLt builtStandard
      visitsSingle freshLength
    rw [Layout.planeElements_congr samePlane, before] at after
    exact (Except.ok.inj after).symm

/-- The second channel of the second image of a larger tensor, on a host with fewer instruction
sets and with a larger unrolling. -/
theorem run_plane_secondImage :
    ∃ kernel single : Kernel,
      (build (Operator.dense .maximum ⟨1, 2⟩) ⟨2, 2, ⟨1, 3⟩, .u8⟩ ⟨2, 2, ⟨1, 2⟩, .u8⟩ .full
        .standard).outcome = .ok kernel ∧
      (kernel.runElements Traversal.rowMajor
        ([1, 8, 2, 6, 3, 5, 4, 9, 6, 4, 5, 7].map (Element.clamp .u8))
        (List.replicate 8 (Element.lowest .u8))).outcome =
          .ok ([2, 8, 3, 6, 6, 9, 6, 7].map (Element.clamp .u8)) ∧
      (build (Operator.dense .maximum ⟨1, 2⟩) ⟨1, 1, ⟨1, 3⟩, .u8⟩ ⟨1, 1, ⟨1, 2⟩, .u8⟩ ⟨true, false⟩
        ⟨.force .narrow, 3⟩).outcome = .ok single ∧
      (single.runElements Traversal.reversed ([9, 4, 7].map (Element.clamp .u8))
        (List.replicate 2 (Element.lowest .u8))).outcome =
          .ok ([9, 7].map (Element.clamp .u8)) := by
  have built : (build (Operator.dense .maximum ⟨1, 2⟩) ⟨2, 2, ⟨1, 3⟩, .u8⟩ ⟨2, 2, ⟨1, 2⟩, .u8⟩ .full
      .standard).outcome =
        .ok ⟨⟨.maximum, 2, 2, ⟨1, 3⟩, ⟨1, 2⟩, ⟨1, 2⟩, ⟨1, 1⟩, ⟨0, 0⟩, .u8, .u8, .wide, 32, 1⟩,
          ⟨.maximum .u8, ⟨2, 6, 1⟩, 32, .wide⟩⟩ := by cbv
  have builtSingle : (build (Operator.dense .maximum ⟨1, 2⟩) ⟨1, 1, ⟨1, 3⟩, .u8⟩
      ⟨1, 1, ⟨1, 2⟩, .u8⟩ ⟨true, false⟩ ⟨.force .narrow, 3⟩).outcome =
        .ok ⟨⟨.maximum, 1, 1, ⟨1, 3⟩, ⟨1, 2⟩, ⟨1, 2⟩, ⟨1, 1⟩, ⟨0, 0⟩, .u8, .u8, .narrow, 16, 3⟩,
          ⟨.maximum .u8, ⟨1, 3, 3⟩, 16, .narrow⟩⟩ := by cbv
  have ran : (runElements ⟨⟨.maximum, 2, 2, ⟨1, 3⟩, ⟨1, 2⟩, ⟨1, 2⟩, ⟨1, 1⟩, ⟨0, 0⟩, .u8, .u8, .wide,
      32, 1⟩, ⟨.maximum .u8, ⟨2, 6, 1⟩, 32, .wide⟩⟩ Traversal.rowMajor
      ([1, 8, 2, 6, 3, 5, 4, 9, 6, 4, 5, 7].map (Element.clamp .u8))
      (List.replicate 8 (Element.lowest .u8))).outcome =
        .ok ([2, 8, 3, 6, 6, 9, 6, 7].map (Element.clamp .u8)) := by decide +kernel
  refine ⟨_, _, built, ran, builtSingle, ?_⟩
  have planes := run_plane built (Traversal.visitsOnce_rowMajor 2 1 2) ran
    (show 1 < 2 by decide) (show 1 < 2 by decide)
  exact planes.2.1 ⟨true, false⟩ ⟨.force .narrow, 3⟩ _ builtSingle Traversal.reversed
    (Traversal.visitsOnce_reversed 1 1 2) _ rfl

end Kernel

end IntegerPooling
