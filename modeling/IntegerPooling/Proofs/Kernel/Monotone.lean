import IntegerPooling.Proofs.Binary32.Order
import IntegerPooling.Proofs.Direct.Sum
import IntegerPooling.Proofs.Kernel.Average

/-!
# Ordered sources have ordered outputs

Every step from a window to its output element keeps the order of its values: the maximum, the
exact sum, the scaling of a sum by the factor of its divisor (`Binary32.scale_mono`) and the
clamping into the destination type. The only step that may not is the wrapping of a sum, so the
averages ask for sums that fit 32 bits.
-/

namespace IntegerPooling

namespace Element

variable {t : ElementType} {smaller larger : List (Element t)}

theorem Ordered.foldl_max (ordered : Ordered smaller larger) {left right : Element t}
    (starts : left.val ≤ right.val) :
    (smaller.foldl max left).val ≤ (larger.foldl max right).val := by
  induction ordered generalizing left right with
  | nil => exact starts
  | cons first _ ih =>
    apply ih
    rw [val_max, val_max]
    exact max_le_max starts first

end Element

namespace Algorithm

theorem isAverage_of_ne_maximum {algorithm : Algorithm} (other : algorithm ≠ .maximum) :
    algorithm.isAverage = true := by
  cases algorithm with
  | maximum => exact absurd rfl other
  | averageIncludingPadding => rfl
  | averageExcludingPadding => rfl

end Algorithm

namespace Direct

variable {t : ElementType}

theorem greatest_mono {smaller larger : List (Element t)}
    (ordered : Element.Ordered smaller larger) :
    (greatest smaller).val ≤ (greatest larger).val :=
  ordered.foldl_max (Int.le_refl _)

theorem average_mono {smaller larger : Element .s32} (ordered : smaller.val ≤ larger.val)
    {count : Nat} (positive : 0 < count) (fits : count < Size.limit) (d : ElementType) :
    (average d smaller count).val ≤ (average d larger count).val := by
  apply Element.val_clamp_mono
  exact Binary32.scale_mono (Binary32.negative_perCount positive fits) ordered

/-- Ordered sources have ordered output elements, those of an average if both sums fit. -/
theorem outputElement_mono {operator : Operator} {layout : Layout}
    {smaller larger : List (Element t)} (ordered : Element.Ordered smaller larger)
    {image channel row column : Nat}
    (positive : 0 < operator.divisor layout.extent row column)
    (fits : operator.divisor layout.extent row column < Size.limit)
    (settled : operator.algorithm = .maximum ∨
      (operator.SumFits layout smaller image channel row column ∧
        operator.SumFits layout larger image channel row column))
    {d : ElementType} {lesser greater : Element d}
    (isLesser : outputElement operator d
      (operator.tapElements layout smaller image channel row column) = .ok lesser)
    (isGreater : outputElement operator d
      (operator.tapElements layout larger image channel row column) = .ok greater) :
    lesser.val ≤ greater.val := by
  have windows := @Operator.tapElements_ordered t operator layout image channel row column _ _
    ordered
  by_cases maximal : operator.algorithm = .maximum
  · rw [outputElement, maximal] at isLesser isGreater
    cases isLesser
    cases isGreater
    exact Element.val_clamp_mono (greatest_mono windows)
  · rcases settled.resolve_left maximal with ⟨smallerFits, largerFits⟩
    have averages := Algorithm.isAverage_of_ne_maximum maximal
    rw [outputElement_average averages fits] at isLesser isGreater
    cases isLesser
    cases isGreater
    apply average_mono _ positive fits
    rw [val_sum smallerFits.1 smallerFits.2, val_sum largerFits.1 largerFits.2]
    exact windows.sum_le

end Direct

namespace Kernel

variable {operator : Operator} {kernel : Kernel}

/-- Pooling keeps the order of sources: two runs of a kernel on sources that are ordered element by
element, in whatever orders of the pixels, have ordered output elements, those of an average
wherever the sums of both windows fit 32 bits. -/
theorem run_monotone {source destination : Layout} {host : Capabilities} {options : Options}
    (built : (build operator source destination host options).outcome = .ok kernel)
    {traversal other : Traversal}
    (visits : traversal.VisitsOnce destination.batch destination.extent.height
      destination.extent.width)
    (otherVisits : other.VisitsOnce destination.batch destination.extent.height
      destination.extent.width)
    {s d : ElementType} {smaller larger : List (Element s)}
    (ordered : Element.Ordered smaller larger)
    {output otherOutput below above : List (Element d)}
    (ranBelow : (kernel.runElements traversal smaller output).outcome = .ok below)
    (ranAbove : (kernel.runElements other larger otherOutput).outcome = .ok above)
    {image channel row column : Nat}
    (contained : destination.Contains image channel row column) :
    (∃ lesser greater,
      below[destination.place image channel row column]? = some lesser ∧
      above[destination.place image channel row column]? = some greater ∧
      (operator.algorithm = .maximum ∨
          (operator.SumFits source smaller image channel row column ∧
            operator.SumFits source larger image channel row column) →
        lesser.val ≤ greater.val)) ∧
    (s ≠ .s32 → (operator.tapPositions source.extent row column).length ≤ 8421504 →
      operator.SumFits source smaller image channel row column ∧
        operator.SumFits source larger image channel row column) := by
  rcases exists_output built visits ranBelow contained with ⟨lesser, isLesser, producedBelow⟩
  rcases exists_output built otherVisits ranAbove contained with
    ⟨greater, isGreater, producedAbove⟩
  refine ⟨⟨lesser, greater, isLesser, isGreater, ?_⟩, ?_⟩
  · intro settled
    exact Direct.outputElement_mono ordered producedBelow.divisor_pos producedBelow.divisor_lt
      settled producedBelow.value_eq producedAbove.value_eq
  · intro narrow few
    exact ⟨Operator.sumFits_of_few narrow few, Operator.sumFits_of_few narrow few⟩

/-- The first average is a tie and the second is clamped. -/
theorem run_monotone_saturated :
    ∃ kernel : Kernel,
      (build ((Operator.dense .averageIncludingPadding ⟨2, 2⟩).withPaddings ⟨1, 1⟩ ⟨0, 0⟩)
        ⟨1, 1, ⟨2, 2⟩, .u8⟩ ⟨1, 1, ⟨2, 2⟩, .s8⟩ .full .standard).outcome = .ok kernel ∧
      (kernel.runElements Traversal.reversed ([3, 250, 7, 10].map (Element.clamp .u8))
        (List.replicate 4 (Element.lowest .s8))).outcome =
          .ok ([1, 63, 2, 68].map (Element.clamp .s8)) ∧
      (kernel.runElements Traversal.standard ([3, 255, 9, 255].map (Element.clamp .u8))
        (List.replicate 4 (Element.lowest .s8))).outcome =
          .ok ([1, 64, 3, 127].map (Element.clamp .s8)) ∧
      (Element.clamp .s8 68).val ≤ (Element.clamp .s8 127).val := by
  have built : (build ((Operator.dense .averageIncludingPadding ⟨2, 2⟩).withPaddings ⟨1, 1⟩ ⟨0, 0⟩)
      ⟨1, 1, ⟨2, 2⟩, .u8⟩ ⟨1, 1, ⟨2, 2⟩, .s8⟩ .full .standard).outcome =
        .ok ⟨⟨.averageIncludingPadding, 1, 1, ⟨2, 2⟩, ⟨2, 2⟩, ⟨2, 2⟩, ⟨1, 1⟩, ⟨1, 1⟩, .u8, .s8,
          .wide, 8, 1⟩, ⟨.average .u8 .s8, ⟨1, 2, 1⟩, 8, .wide⟩⟩ := by cbv
  have ranBelow : (runElements ⟨⟨.averageIncludingPadding, 1, 1, ⟨2, 2⟩, ⟨2, 2⟩, ⟨2, 2⟩, ⟨1, 1⟩,
      ⟨1, 1⟩, .u8, .s8, .wide, 8, 1⟩, ⟨.average .u8 .s8, ⟨1, 2, 1⟩, 8, .wide⟩⟩ Traversal.reversed
      ([3, 250, 7, 10].map (Element.clamp .u8)) (List.replicate 4 (Element.lowest .s8))).outcome =
        .ok ([1, 63, 2, 68].map (Element.clamp .s8)) := by decide +kernel
  have ranAbove : (runElements ⟨⟨.averageIncludingPadding, 1, 1, ⟨2, 2⟩, ⟨2, 2⟩, ⟨2, 2⟩, ⟨1, 1⟩,
      ⟨1, 1⟩, .u8, .s8, .wide, 8, 1⟩, ⟨.average .u8 .s8, ⟨1, 2, 1⟩, 8, .wide⟩⟩ Traversal.standard
      ([3, 255, 9, 255].map (Element.clamp .u8)) (List.replicate 4 (Element.lowest .s8))).outcome =
        .ok ([1, 64, 3, 127].map (Element.clamp .s8)) := by decide +kernel
  have standardVisits : Traversal.standard.VisitsOnce 1 2 2 :=
    Traversal.visitsOnce_flattened (by decide) (by decide)
  have ordered : Element.Ordered ([3, 250, 7, 10].map (Element.clamp .u8))
      ([3, 255, 9, 255].map (Element.clamp .u8)) := by
    unfold Element.Ordered
    decide
  have contained : Layout.Contains ⟨1, 1, ⟨2, 2⟩, .s8⟩ 0 0 1 1 :=
    ⟨by decide, by decide, by decide, by decide⟩
  refine ⟨_, built, ranBelow, ranAbove, ?_⟩
  rcases run_monotone built (Traversal.visitsOnce_reversed 1 2 2) standardVisits ordered ranBelow
    ranAbove contained with ⟨⟨lesser, greater, isLesser, isGreater, inOrder⟩, fitting⟩
  have sumsFit := fitting (by decide) (by decide)
  cases isLesser
  cases isGreater
  exact inOrder (.inr sumsFit)

end Kernel

end IntegerPooling
