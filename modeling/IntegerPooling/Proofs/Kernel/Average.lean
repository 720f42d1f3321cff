import IntegerPooling.Proofs.Binary32.Scale
import IntegerPooling.Proofs.Kernel.Output

/-!
# The output of an average

A sum that wraps on the way comes out right if the exact sum fits 32 bits, since wrapping keeps a
sum modulo the size of the type (`foldl_addWrapping`). The sum is then scaled by the factor of its
divisor, which for sums of at most `2 ^ 22` in size gives an integer nearest to the exact quotient,
and clamped into the destination type (`run_average`).
-/

namespace IntegerPooling

namespace Element

variable {t : ElementType}

theorem wrap_val_add (value term : Int) :
    wrap t ((wrap t value).val + term) = wrap t (value + term) := by
  apply ext_val
  have shifted : t.lowest + (value - t.lowest) % (t.modulus : Int) + term - t.lowest =
      (value - t.lowest) % (t.modulus : Int) + term := by omega
  have unshifted : value - t.lowest + term = value + term - t.lowest := by omega
  simp only [wrap]
  rw [shifted, Int.emod_add_emod, unshifted]

/-- A wrapping sum is the exact sum, wrapped once. -/
theorem foldl_addWrapping (start : Element .s32) (elements : List (Element t)) :
    elements.foldl addWrapping start = wrap .s32 (start.val + (elements.map val).sum) := by
  induction elements generalizing start with
  | nil => simp
  | cons first rest ih =>
    rw [List.foldl_cons, ih, addWrapping, wrap_val_add, List.map_cons, List.sum_cons,
      Int.add_assoc]

end Element

namespace Direct

theorem val_sum {t : ElementType} {elements : List (Element t)}
    (lower : ElementType.s32.lowest ≤ (elements.map Element.val).sum)
    (upper : (elements.map Element.val).sum ≤ ElementType.s32.highest) :
    (sum elements).val = (elements.map Element.val).sum := by
  rw [sum, Element.foldl_addWrapping, Element.val_zero, Int.zero_add]
  exact Element.val_wrap_of_bounds lower upper

/-- Both averages divide the sum of a window by the divisor of the operator. -/
theorem outputElement_average {s : ElementType} {operator : Operator} {layout : Layout}
    {source : List (Element s)} {image channel row column : Nat}
    (averages : operator.algorithm.isAverage = true)
    (fits : operator.divisor layout.extent row column < Size.limit) (d : ElementType) :
    outputElement operator d (operator.tapElements layout source image channel row column) =
      .ok (average d (sum (operator.tapElements layout source image channel row column))
        (operator.divisor layout.extent row column)) := by
  unfold Operator.divisor at fits ⊢
  unfold outputElement
  cases algorithmEq : operator.algorithm with
  | maximum =>
    rw [algorithmEq] at averages
    cases averages
  | averageIncludingPadding =>
    rw [algorithmEq] at fits
    simp only [Size.mul_of_lt fits]
    rfl
  | averageExcludingPadding =>
    simp only [Operator.tapElements, List.length_map]

end Direct

namespace Kernel

variable {operator : Operator} {kernel : Kernel}

/-- Every output element of an average whose window has a sum of at most `2 ^ 22` in size is an
integer nearest to the exact quotient, clamped into the destination type. -/
theorem run_average {source destination : Layout} {host : Capabilities} {options : Options}
    (built : (build operator source destination host options).outcome = .ok kernel)
    (averages : operator.algorithm.isAverage = true) {traversal : Traversal}
    (visits : traversal.VisitsOnce destination.batch destination.extent.height
      destination.extent.width)
    {s d : ElementType} {input : List (Element s)} {output result : List (Element d)}
    (ran : (kernel.runElements traversal input output).outcome = .ok result)
    {image channel row column : Nat}
    (contained : destination.Contains image channel row column)
    (small : (operator.tapSum source input image channel row column).natAbs ≤ 2 ^ 22) :
    ∃ rounded : Int,
      2 * (operator.divisor source.extent row column * rounded -
          operator.tapSum source input image channel row column).natAbs ≤
        operator.divisor source.extent row column ∧
      result[destination.place image channel row column]? = some (Element.clamp d rounded) := by
  rcases exists_output built visits ran contained with ⟨value, isOutput, produced⟩
  have computed := produced.value_eq
  rw [Direct.outputElement_average averages produced.divisor_lt] at computed
  cases computed
  have sumEq : (Direct.sum (operator.tapElements source input image channel row column)).val =
      operator.tapSum source input image channel row column := by
    apply Direct.val_sum
    · change _ ≤ operator.tapSum source input image channel row column
      rw [ElementType.lowest]
      omega
    · change operator.tapSum source input image channel row column ≤ _
      rw [ElementType.highest]
      omega
  rw [← sumEq] at small ⊢
  exact ⟨_, Binary32.scale_perCount_nearest produced.divisor_pos produced.divisor_lt small,
    isOutput⟩

/-- The exact sum is 7, although the sum of the first two elements leaves the 32-bit range. -/
theorem run_average_wrapping :
    ∃ (kernel : Kernel) (result : List (Element .u8)),
      (build (Operator.dense .averageExcludingPadding ⟨2, 2⟩) ⟨1, 1, ⟨2, 2⟩, .s32⟩
        ⟨1, 1, ⟨1, 1⟩, .u8⟩ .full .standard).outcome = .ok kernel ∧
      (kernel.runElements Traversal.standard
        ([2147483647, 2147483647, -2147483647, -2147483640].map (Element.clamp .s32))
        [Element.lowest .u8]).outcome = .ok result ∧
      result[0]? = some (Element.clamp .u8 2) := by
  have built : (build (Operator.dense .averageExcludingPadding ⟨2, 2⟩) ⟨1, 1, ⟨2, 2⟩, .s32⟩
      ⟨1, 1, ⟨1, 1⟩, .u8⟩ .full .standard).outcome =
        .ok ⟨⟨.averageExcludingPadding, 1, 1, ⟨2, 2⟩, ⟨1, 1⟩, ⟨2, 2⟩, ⟨1, 1⟩, ⟨0, 0⟩, .s32, .u8,
          .wide, 8, 1⟩, ⟨.average .s32 .u8, ⟨1, 2, 1⟩, 8, .wide⟩⟩ := by cbv
  have ran : (runElements ⟨⟨.averageExcludingPadding, 1, 1, ⟨2, 2⟩, ⟨1, 1⟩, ⟨2, 2⟩, ⟨1, 1⟩, ⟨0, 0⟩,
      .s32, .u8, .wide, 8, 1⟩, ⟨.average .s32 .u8, ⟨1, 2, 1⟩, 8, .wide⟩⟩ Traversal.standard
      ([2147483647, 2147483647, -2147483647, -2147483640].map (Element.clamp .s32))
      [Element.lowest .u8]).outcome = .ok [Element.clamp .u8 2] := by decide +kernel
  have visits : Traversal.standard.VisitsOnce 1 1 1 :=
    Traversal.visitsOnce_flattened (by decide) (by decide)
  have contained : Layout.Contains ⟨1, 1, ⟨1, 1⟩, .u8⟩ 0 0 0 0 :=
    ⟨by decide, by decide, by decide, by decide⟩
  refine ⟨_, _, built, ran, ?_⟩
  rcases run_average built rfl visits ran contained (by decide) with ⟨rounded, nearest, isOutput⟩
  have quotient : 2 * (4 * rounded - 7).natAbs ≤ 4 := nearest
  obtain rfl : rounded = 2 := by omega
  exact isOutput

end Kernel

end IntegerPooling
