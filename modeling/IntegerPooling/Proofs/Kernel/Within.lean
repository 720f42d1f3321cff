import IntegerPooling.Proofs.Binary32.Range
import IntegerPooling.Proofs.Direct.Sum
import IntegerPooling.Proofs.Kernel.Average

/-!
# An average stays in the range of its window

The exact sum of a window lies between its divisor times any two bounds of its elements, if the
divisor is the number of elements or the bounds enclose zero (`tapSum_between_divisor`). Scaling
does not leave such bounds, however inexact the sum and the factor are
(`Binary32.scale_perCount_between`): a count of a window is exact below `2 ^ 24`, and a padded
divisor has bounds on both sides of zero.
-/

namespace IntegerPooling

/-- Two bounds that the divisor of an operator keeps: where padding counts as zero, the bounds have
to enclose zero. -/
def Operator.Encloses (operator : Operator) (low high : Int) : Prop :=
  operator.algorithm = .averageExcludingPadding ∨ (low ≤ 0 ∧ 0 ≤ high)

namespace Direct

variable {t : ElementType} {operator : Operator} {layout : Layout} {source : List (Element t)}
  {image channel row column : Nat} {low high : Int}

theorem tapSum_between_divisor
    (enclosed : operator.Encloses low high)
    (lower : ∀ element ∈ operator.tapElements layout source image channel row column,
      low ≤ element.val)
    (upper : ∀ element ∈ operator.tapElements layout source image channel row column,
      element.val ≤ high) :
    operator.divisor layout.extent row column * low ≤
        operator.tapSum layout source image channel row column ∧
      operator.tapSum layout source image channel row column ≤
        operator.divisor layout.extent row column * high := by
  have between := Operator.tapSum_between lower upper
  by_cases excluding : operator.algorithm = .averageExcludingPadding
  · rw [Operator.divisor, excluding]
    exact between
  · rcases enclosed.resolve_left excluding with ⟨lowNonpos, highNonneg⟩
    have counted : ((operator.tapPositions layout.extent row column).length : Int) ≤
        operator.divisor layout.extent row column := by
      have inKernel := operator.length_tapPositions_le layout.extent row column
      unfold Operator.divisor
      split <;> omega
    constructor
    · exact Int.le_trans (Int.mul_le_mul_of_nonpos_right counted lowNonpos) between.1
    · exact Int.le_trans between.2 (Int.mul_le_mul_of_nonneg_right counted highNonneg)

/-- Bounds of a window are bounds of its average, once clamped into the destination type. -/
theorem outputElement_between (enclosed : operator.Encloses low high)
    (averages : operator.algorithm.isAverage = true)
    (positive : 0 < operator.divisor layout.extent row column)
    (fits : operator.divisor layout.extent row column < Size.limit)
    (narrow : t ≠ .s32) (few : (operator.tapPositions layout.extent row column).length ≤ 8421504)
    (lowSmall : -(2 ^ 20 : Int) ≤ low) (highSmall : high ≤ 2 ^ 20)
    (lower : ∀ element ∈ operator.tapElements layout source image channel row column,
      low ≤ element.val)
    (upper : ∀ element ∈ operator.tapElements layout source image channel row column,
      element.val ≤ high)
    {d : ElementType} {value : Element d}
    (isValue : outputElement operator d
      (operator.tapElements layout source image channel row column) = .ok value) :
    (Element.clamp d low).val ≤ value.val ∧ value.val ≤ (Element.clamp d high).val := by
  rw [outputElement_average averages fits] at isValue
  cases isValue
  have sumFits : operator.SumFits layout source image channel row column :=
    Operator.sumFits_of_few narrow few
  have between := tapSum_between_divisor enclosed lower upper
  have exactCount : operator.divisor layout.extent row column < 2 ^ 24 ∨ (low ≤ 0 ∧ 0 ≤ high) := by
    apply enclosed.imp_left
    intro excluding
    rw [Operator.divisor, excluding]
    change (operator.tapPositions layout.extent row column).length < 2 ^ 24
    omega
  have sumEq : (sum (operator.tapElements layout source image channel row column)).val =
      operator.tapSum layout source image channel row column := val_sum sumFits.1 sumFits.2
  rw [← sumEq] at between
  have scaled := Binary32.scale_perCount_between positive fits between.1 between.2 lowSmall
    highSmall exactCount
  exact ⟨Element.val_clamp_mono scaled.1, Element.val_clamp_mono scaled.2⟩

end Direct

namespace Kernel

variable {operator : Operator} {kernel : Kernel}

/-- An average of eight-bit elements stays between the bounds of its window, clamped into the
destination type. If padding counts, zero is one of the averaged values. -/
theorem run_average_within {source destination : Layout} {host : Capabilities} {options : Options}
    (built : (build operator source destination host options).outcome = .ok kernel)
    {traversal : Traversal}
    (visits : traversal.VisitsOnce destination.batch destination.extent.height
      destination.extent.width)
    {s d : ElementType} (narrow : s ≠ .s32) {input : List (Element s)}
    {output result : List (Element d)}
    (ran : (kernel.runElements traversal input output).outcome = .ok result)
    {image channel row column : Nat}
    (contained : destination.Contains image channel row column)
    (few : (operator.tapPositions source.extent row column).length ≤ 8421504)
    {low high : Element s}
    (lower : ∀ element ∈ operator.tapElements source input image channel row column,
      low.val ≤ element.val)
    (upper : ∀ element ∈ operator.tapElements source input image channel row column,
      element.val ≤ high.val) :
    ∃ value, result[destination.place image channel row column]? = some value ∧
      (operator.algorithm = .averageExcludingPadding →
        (Element.clamp d low.val).val ≤ value.val ∧ value.val ≤ (Element.clamp d high.val).val ∧
          (low = high → value = Element.clamp d low.val)) ∧
      (operator.algorithm = .averageIncludingPadding →
        (Element.clamp d (min 0 low.val)).val ≤ value.val ∧
          value.val ≤ (Element.clamp d (max 0 high.val)).val) := by
  rcases exists_output built visits ran contained with ⟨value, isOutput, produced⟩
  have lowBounds := low.bounds_of_narrow narrow
  have highBounds := high.bounds_of_narrow narrow
  refine ⟨value, isOutput, ?_, ?_⟩
  · intro excluding
    have averages : operator.algorithm.isAverage = true := by
      rw [excluding]
      rfl
    have between := Direct.outputElement_between (.inl excluding) averages produced.divisor_pos
      produced.divisor_lt narrow few (by omega) (by omega) lower upper produced.value_eq
    refine ⟨between.1, between.2, ?_⟩
    rintro rfl
    exact Element.ext_val (Int.le_antisymm between.2 between.1)
  · intro including
    have averages : operator.algorithm.isAverage = true := by
      rw [including]
      rfl
    apply Direct.outputElement_between (.inr ⟨Int.min_le_left _ _, Int.le_max_left _ _⟩) averages
      produced.divisor_pos produced.divisor_lt narrow few (by omega) (by omega) _ _
      produced.value_eq
    · intro element present
      exact Int.le_trans (Int.min_le_right _ _) (lower element present)
    · intro element present
      exact Int.le_trans (upper element present) (Int.le_max_right _ _)

/-- A constant has itself as its average, although no factor of a third is exact. -/
theorem run_average_within_constant :
    ∃ (kernel : Kernel) (result : List (Element .s32)),
      (build ((Operator.dense .averageExcludingPadding ⟨1, 3⟩).withPadding ⟨0, 1⟩)
        ⟨1, 1, ⟨1, 3⟩, .s8⟩ ⟨1, 1, ⟨1, 3⟩, .s32⟩ .full .standard).outcome = .ok kernel ∧
      (kernel.runElements Traversal.reversed (List.replicate 3 (Element.clamp .s8 (-7)))
        (List.replicate 3 (Element.lowest .s32))).outcome = .ok result ∧
      result[1]? = some (Element.clamp .s32 (-7)) := by
  have built : (build ((Operator.dense .averageExcludingPadding ⟨1, 3⟩).withPadding ⟨0, 1⟩)
      ⟨1, 1, ⟨1, 3⟩, .s8⟩ ⟨1, 1, ⟨1, 3⟩, .s32⟩ .full .standard).outcome =
        .ok ⟨⟨.averageExcludingPadding, 1, 1, ⟨1, 3⟩, ⟨1, 3⟩, ⟨1, 3⟩, ⟨1, 1⟩, ⟨0, 1⟩, .s8, .s32,
          .wide, 8, 1⟩, ⟨.average .s8 .s32, ⟨1, 3, 1⟩, 8, .wide⟩⟩ := by cbv
  have ran : (runElements ⟨⟨.averageExcludingPadding, 1, 1, ⟨1, 3⟩, ⟨1, 3⟩, ⟨1, 3⟩, ⟨1, 1⟩, ⟨0, 1⟩,
      .s8, .s32, .wide, 8, 1⟩, ⟨.average .s8 .s32, ⟨1, 3, 1⟩, 8, .wide⟩⟩ Traversal.reversed
      (List.replicate 3 (Element.clamp .s8 (-7)))
      (List.replicate 3 (Element.lowest .s32))).outcome =
        .ok (List.replicate 3 (Element.clamp .s32 (-7))) := by decide +kernel
  have contained : Layout.Contains ⟨1, 1, ⟨1, 3⟩, .s32⟩ 0 0 0 1 :=
    ⟨by decide, by decide, by decide, by decide⟩
  have constantWindow : ∀ element ∈ Operator.tapElements
      ((Operator.dense .averageExcludingPadding ⟨1, 3⟩).withPadding ⟨0, 1⟩) ⟨1, 1, ⟨1, 3⟩, .s8⟩
      (List.replicate 3 (Element.clamp .s8 (-7))) 0 0 0 1, element = Element.clamp .s8 (-7) := by
    decide
  refine ⟨_, _, built, ran, ?_⟩
  rcases run_average_within built (Traversal.visitsOnce_reversed 1 1 3) (by decide) ran contained
    (by decide) (fun element present => Int.le_of_eq (congrArg Element.val
      (constantWindow element present).symm))
    (fun element present => Int.le_of_eq (congrArg Element.val (constantWindow element present)))
    with ⟨value, isOutput, bounds, _⟩
  have constant : value = Element.clamp .s32 (-7) := (bounds rfl).2.2 rfl
  exact isOutput.trans (congrArg some constant)

end Kernel

end IntegerPooling
