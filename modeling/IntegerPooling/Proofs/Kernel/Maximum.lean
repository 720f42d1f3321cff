import IntegerPooling.Proofs.Kernel.Output

/-!
# The output of a maximum

Folding a window starts from the least value of its type, which no element is below. As every
window has a position inside the input, the start is never the only candidate: the greatest value
is one of the window (`greatest_mem`) and bounds all others (`le_greatest`). Padding has no value,
so a window of negative elements keeps a negative maximum (`run_maximum_negative`).
-/

namespace IntegerPooling

namespace Element

variable {t : ElementType}

theorem foldl_max_mem (start : Element t) (elements : List (Element t)) :
    elements.foldl max start ∈ start :: elements := by
  induction elements generalizing start with
  | nil => exact List.mem_singleton_self start
  | cons first rest ih =>
    rcases List.mem_cons.mp (ih (start.max first)) with isStart | inRest
    · rw [List.foldl_cons, isStart]
      unfold max
      split
      · exact List.mem_cons_of_mem _ List.mem_cons_self
      · exact List.mem_cons_self
    · exact List.mem_cons_of_mem _ (List.mem_cons_of_mem _ inRest)

theorem foldl_max_le_iff (start : Element t) (elements : List (Element t)) (bound : Int) :
    (elements.foldl max start).val ≤ bound ↔
      ∀ element ∈ start :: elements, element.val ≤ bound := by
  induction elements generalizing start with
  | nil => simp
  | cons first rest ih =>
    rw [List.foldl_cons, ih]
    simp only [List.forall_mem_cons, val_max, Int.max_le, and_assoc]

end Element

namespace Direct

variable {t : ElementType} {elements : List (Element t)}

theorem le_greatest {element : Element t} (present : element ∈ elements) :
    element.val ≤ (greatest elements).val :=
  (Element.foldl_max_le_iff _ _ _).mp (Int.le_refl _) element (List.mem_cons_of_mem _ present)

theorem greatest_mem (nonempty : elements ≠ []) : greatest elements ∈ elements := by
  rcases List.mem_cons.mp (Element.foldl_max_mem (Element.lowest t) elements) with
    isLowest | present
  · -- An element that is not above the least value is the least value itself.
    rcases List.exists_mem_of_ne_nil elements nonempty with ⟨element, present⟩
    have upper := le_greatest present
    have lower := element.lowest_le
    rw [greatest, isLowest] at upper ⊢
    rw [← Element.ext_val (Int.le_antisymm upper lower)]
    exact present
  · exact present

end Direct

namespace Kernel

variable {operator : Operator} {kernel : Kernel}

/-- A maximum is run on one element type only. -/
theorem types_eq_of_maximum (fits : Routine.Fits kernel.plan kernel.routine)
    (maximal : kernel.plan.algorithm = .maximum) {s d : ElementType}
    (sameSource : kernel.plan.source = s.dataType)
    (sameDestination : kernel.plan.destination = d.dataType) : s = d := by
  rcases fits.chosen.isMaximum_iff.mpr maximal with ⟨t, pathEq⟩
  calc s = kernel.routine.path.source := (fits.path_source sameSource).symm
    _ = kernel.routine.path.destination := by
      rw [pathEq]
      rfl
    _ = d := fits.path_destination sameDestination

/-- Every output element of a maximum is a value of its window, and no value of the window is
greater. -/
theorem run_maximum {source destination : Layout} {host : Capabilities} {options : Options}
    (built : (build operator source destination host options).outcome = .ok kernel)
    (maximal : operator.algorithm = .maximum) {traversal : Traversal}
    (visits : traversal.VisitsOnce destination.batch destination.extent.height
      destination.extent.width)
    {s d : ElementType} {input : List (Element s)} {output result : List (Element d)}
    (ran : (kernel.runElements traversal input output).outcome = .ok result)
    {image channel row column : Nat}
    (contained : destination.Contains image channel row column) :
    ∃ value, result[destination.place image channel row column]? = some value ∧
      (∃ position ∈ operator.tapPositions source.extent row column, ∃ element,
        input[source.place image channel position.1 position.2]? = some element ∧
          element.val = value.val) ∧
      ∀ position ∈ operator.tapPositions source.extent row column, ∃ element,
        input[source.place image channel position.1 position.2]? = some element ∧
          element.val ≤ value.val := by
  have conditions := built_of_build built
  rcases types_of_runElements ran with ⟨sameSource, sameDestination⟩
  obtain rfl : s = d := types_eq_of_maximum conditions.fits
    (conditions.planned.sound.algorithm_eq.trans maximal) sameSource sameDestination
  rcases exists_output built visits ran contained with ⟨value, isOutput, produced⟩
  have valueEq : value =
      Direct.greatest (operator.tapElements source input image channel row column) := by
    have computed := produced.value_eq
    rw [Direct.outputElement, maximal] at computed
    exact (Except.ok.inj computed).symm.trans (Element.saturate_widen _)
  have nonempty : operator.tapElements source input image channel row column ≠ [] :=
    fun none => produced.reached (List.map_eq_nil_iff.mp none)
  refine ⟨value, isOutput, ?_, ?_⟩
  · have valueMem := Direct.greatest_mem nonempty
    rw [← valueEq] at valueMem
    rcases List.mem_map.mp valueMem with ⟨position, positionMem, found⟩
    exact ⟨position, positionMem, _, produced.found position positionMem,
      congrArg Element.val found⟩
  · intro position positionMem
    refine ⟨_, produced.found position positionMem, ?_⟩
    rw [valueEq]
    exact Direct.le_greatest (List.mem_map_of_mem positionMem)

/-- Padding is not a zero: next to the border the maximum of negative elements is negative. -/
theorem run_maximum_negative :
    ∃ (kernel : Kernel) (result : List (Element .s8)),
      (build ((Operator.dense .maximum ⟨2, 2⟩).withPaddings ⟨1, 1⟩ ⟨0, 0⟩) ⟨1, 1, ⟨2, 2⟩, .s8⟩
        ⟨1, 1, ⟨2, 2⟩, .s8⟩ .full .standard).outcome = .ok kernel ∧
      (kernel.runElements Traversal.reversed ([-5, -3, -8, -9].map (Element.clamp .s8))
        (List.replicate 4 (Element.lowest .s8))).outcome = .ok result ∧
      (result[1]?).map Element.val = some (-3) := by
  have built : (build ((Operator.dense .maximum ⟨2, 2⟩).withPaddings ⟨1, 1⟩ ⟨0, 0⟩)
      ⟨1, 1, ⟨2, 2⟩, .s8⟩ ⟨1, 1, ⟨2, 2⟩, .s8⟩ .full .standard).outcome =
        .ok ⟨⟨.maximum, 1, 1, ⟨2, 2⟩, ⟨2, 2⟩, ⟨2, 2⟩, ⟨1, 1⟩, ⟨1, 1⟩, .s8, .s8, .wide, 32, 1⟩,
          ⟨.maximum .s8, ⟨1, 2, 1⟩, 32, .wide⟩⟩ := by cbv
  have ran : (runElements ⟨⟨.maximum, 1, 1, ⟨2, 2⟩, ⟨2, 2⟩, ⟨2, 2⟩, ⟨1, 1⟩, ⟨1, 1⟩, .s8, .s8,
      .wide, 32, 1⟩, ⟨.maximum .s8, ⟨1, 2, 1⟩, 32, .wide⟩⟩ Traversal.reversed
      ([-5, -3, -8, -9].map (Element.clamp .s8)) (List.replicate 4 (Element.lowest .s8))).outcome =
        .ok ([-5, -3, -5, -3].map (Element.clamp .s8)) := by decide +kernel
  have contained : Layout.Contains ⟨1, 1, ⟨2, 2⟩, .s8⟩ 0 0 0 1 :=
    ⟨by decide, by decide, by decide, by decide⟩
  refine ⟨_, _, built, ran, ?_⟩
  rcases run_maximum built rfl (Traversal.visitsOnce_reversed 1 2 2) ran contained with
    ⟨value, isOutput, ⟨position, positionMem, element, found, sameValue⟩, bounds⟩
  -- Of the four taps only two lie inside the input.
  have positions : position ∈ [(0, 0), (0, 1)] := positionMem
  rcases bounds (0, 1) (by decide) with ⟨greatest, isGreatest, greatestLe⟩
  cases isGreatest
  refine (congrArg (Option.map Element.val) isOutput).trans (congrArg some ?_)
  rcases List.mem_cons.mp positions with rfl | rest
  · cases found
    rw [← sameValue] at greatestLe
    exact absurd greatestLe (by decide)
  · rcases List.mem_singleton.mp rest with rfl
    cases found
    exact sameValue.symm

end Kernel

end IntegerPooling
