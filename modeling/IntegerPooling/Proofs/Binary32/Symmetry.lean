import IntegerPooling.Proofs.Binary32.Order

/-!
# Scaling is symmetric

A sum and its opposite are scaled to numbers of one size with different signs (`scaledInt_neg`). As
32-bit integers go one further below zero than above, the two results are opposites only while both
lie inside the range; a size that leaves it makes one of them the highest and the other the lowest
integer. No size falls between these two cases, because a number above `2 ^ 30` is a multiple of
`2 ^ 7` and so never the highest 32-bit integer itself (`wholeSize_cases`).
-/

namespace IntegerPooling

namespace Element

/-- The opposite of a 32-bit integer, which all but the lowest one have. -/
def opposite (element : Element .s32) (above : ElementType.s32.lowest < element.val) :
    Element .s32 :=
  ⟨-element.val, by
    have := element.le_highest
    simp only [ElementType.lowest, ElementType.highest] at *
    omega, by
    simp only [ElementType.lowest, ElementType.highest] at *
    omega⟩

theorem val_clamp_eq_highest_iff {t : ElementType} {value : Int} :
    (clamp t value).val = t.highest ↔ t.highest ≤ value := by
  cases t <;> simp only [clamp, ElementType.lowest, ElementType.highest] <;> omega

/-- Whether two 32-bit integers are opposites of each other, or the two ends of the range. -/
inductive Mirrors (left right : Element .s32) : Prop where
  | opposites (leftBelow : left.val < ElementType.s32.highest)
      (rightBelow : right.val < ElementType.s32.highest) (negated : right.val = -left.val)
  | saturatedLeft (leftHighest : left.val = ElementType.s32.highest)
      (rightLowest : right.val = ElementType.s32.lowest)
  | saturatedRight (leftLowest : left.val = ElementType.s32.lowest)
      (rightHighest : right.val = ElementType.s32.highest)

/-- Opposite integers that miss the highest one in size are clamped symmetrically. -/
theorem mirrors_clamp {value : Int}
    (apart : value.natAbs < 2 ^ 31 - 1 ∨ 2 ^ 31 ≤ value.natAbs) :
    Mirrors (clamp .s32 value) (clamp .s32 (-value)) := by
  rcases apart with inside | outside
  · apply Mirrors.opposites <;>
      simp only [clamp, ElementType.lowest, ElementType.highest] <;> omega
  · by_cases negative : value < 0
    · apply Mirrors.saturatedRight <;>
        simp only [clamp, ElementType.lowest, ElementType.highest] <;> omega
    · apply Mirrors.saturatedLeft <;>
        simp only [clamp, ElementType.lowest, ElementType.highest] <;> omega

end Element

namespace Binary32

/-- Whether a number lies above every 32-bit integer, as infinity does. -/
def Exceeds (number : Binary32) : Prop :=
  number.isNaN = false ∧ number.negative = false ∧ 2 ^ 31 * 2 ^ 149 ≤ number.units

/-- Large numbers have no odd whole values. -/
theorem dvd_units {number : Binary32} (large : 2 ^ 30 * 2 ^ 149 ≤ number.units) :
    2 ^ 149 * 2 ^ 7 ∣ number.units := by
  rcases units_short number with ⟨significand, shift, short, unitsEq⟩
  have shiftLarge : 155 < shift := by
    by_contra small
    have powers : 2 ^ shift ≤ 2 ^ 155 := Nat.pow_le_pow_right (by decide) (Nat.le_of_not_lt small)
    have product : significand * 2 ^ shift < 2 ^ 24 * 2 ^ 155 :=
      Nat.mul_lt_mul_of_lt_of_le short powers (Nat.two_pow_pos 155)
    omega
  have divides : 2 ^ 156 ∣ 2 ^ shift := Nat.pow_dvd_pow 2 shiftLarge
  rw [← Nat.pow_add, unitsEq]
  exact Nat.dvd_mul_left_of_dvd divides significand

/-- The integer nearest to a number is not the highest 32-bit integer: it is either smaller, or the
number itself is beyond. -/
theorem nearestEven_units_cases (number : Binary32) :
    (number.units < 2 ^ 31 * 2 ^ 149 ∧ nearestEven number.units (2 ^ 149) < 2 ^ 31 - 1) ∨
      (2 ^ 31 * 2 ^ 149 ≤ number.units ∧ 2 ^ 31 ≤ nearestEven number.units (2 ^ 149)) := by
  by_cases large : 2 ^ 30 * 2 ^ 149 ≤ number.units
  · rcases dvd_units large with ⟨multiple, unitsEq⟩
    rw [Nat.mul_assoc] at unitsEq
    rw [unitsEq, nearestEven_mul_left (Nat.two_pow_pos 149)]
    omega
  · have rounded := nearestEven_mono (2 ^ 149) (Nat.le_of_lt (Nat.lt_of_not_le large))
    rw [Nat.mul_comm, nearestEven_mul_left (Nat.two_pow_pos 149)] at rounded
    omega

theorem wholeSize_cases (number : Binary32) :
    number.wholeSize < 2 ^ 31 - 1 ∨ 2 ^ 31 ≤ number.wholeSize := by
  have apart := nearestEven_units_cases number
  rw [wholeSize]
  split <;> omega

/-- Only what lies above every 32-bit integer is rounded to the highest one. -/
theorem toElement_eq_highest_iff (number : Binary32) :
    number.toElement.val = ElementType.s32.highest ↔ number.Exceeds := by
  have apart := nearestEven_units_cases number
  rw [toElement_eq, Element.val_clamp_eq_highest_iff, ElementType.highest, wholeSize, Exceeds]
  cases number.isNaN with
  | true => simp
  | false =>
    cases number.negative with
    | true =>
      simp only [if_true, Bool.true_eq_false, Bool.false_eq_true, if_false, false_and, and_false,
        iff_false]
      omega
    | false =>
      simp only [Bool.false_eq_true, if_false, true_and]
      omega

/-- A scaled sum as a whole number, before it is clamped into 32 bits. -/
def scaledInt (sum : Int) (factor : Binary32) : Int :=
  if decide (sum < 0) != factor.negative then -(scaledSize sum.natAbs factor : Int)
  else scaledSize sum.natAbs factor

theorem natAbs_scaledInt (sum : Int) (factor : Binary32) :
    (scaledInt sum factor).natAbs = scaledSize sum.natAbs factor := by
  rw [scaledInt]
  split <;> omega

/-- Zero is scaled to zero by every factor; zero times infinity is no number, which counts as
zero. -/
theorem scaledSize_zero (factor : Binary32) : scaledSize 0 factor = 0 := by
  have zeroFinite : (ofNat 0).Finite := (units_ofNat (by decide)).1
  rcases Nat.lt_trichotomy factor.magnitude infinityCode with finite | infinite | none
  · have zeroUnits : (ofNat 0).units * factor.units = 0 := Nat.zero_mul _
    rw [scaledSize, mul_of_finite zeroFinite finite, zeroUnits]
    cases (ofNat 0).negative != factor.negative <;> rfl
  · exact wholeSize_congr (magnitude_mul_infinite_of_zero zeroFinite infinite rfl)
  · have isNaN : factor.isNaN = true := decide_eq_true none
    have magnitudeEq : (mul (ofNat 0) factor).magnitude = notANumber.magnitude := by
      rw [magnitude_mul, isNaN, Bool.or_true, if_pos rfl]
    exact wholeSize_congr magnitudeEq

theorem scaledInt_neg (sum : Int) (factor : Binary32) :
    scaledInt (-sum) factor = -scaledInt sum factor := by
  rw [scaledInt, scaledInt, Int.natAbs_neg]
  rcases Int.lt_trichotomy sum 0 with negative | rfl | positive
  · have sign : decide (-sum < 0) = false := decide_eq_false (by omega)
    rw [sign, decide_eq_true negative]
    cases factor.negative <;> simp
  · -- The opposite of zero has the sign of zero, but then the size is zero too.
    simp [scaledSize_zero]
  · have sign : decide (sum < 0) = false := decide_eq_false (by omega)
    rw [sign, decide_eq_true (by omega)]
    cases factor.negative <;> simp

/-- Scaling by a factor without a sign keeps the order of sums, and scaling the opposite of a sum by
any factor gives the opposite of the scaled sum, the ends of the range counting as opposites. The
upper end is reached exactly by the products above every 32-bit integer. -/
theorem scale_symmetric (factor : Binary32) :
    (factor.negative = false → ∀ smaller larger : Element .s32, smaller.val ≤ larger.val →
      (scale smaller factor).val ≤ (scale larger factor).val) ∧
    ∀ (sum : Element .s32) (above : ElementType.s32.lowest < sum.val),
      Element.Mirrors (scale sum factor) (scale (sum.opposite above) factor) ∧
      ((scale sum factor).val = ElementType.s32.highest ↔
        Exceeds (mul (ofInt sum.val) factor)) := by
  constructor
  · intro unsigned smaller larger ordered
    exact scale_mono unsigned ordered
  · intro sum above
    have sumEq : scale sum factor = Element.clamp .s32 (scaledInt sum.val factor) :=
      scale_eq sum factor
    have oppositeEq : scale (sum.opposite above) factor =
        Element.clamp .s32 (scaledInt (-sum.val) factor) :=
      scale_eq (sum.opposite above) factor
    refine ⟨?_, toElement_eq_highest_iff _⟩
    rw [sumEq, oppositeEq, scaledInt_neg]
    apply Element.mirrors_clamp
    rw [natAbs_scaledInt]
    exact wholeSize_cases _

/-- Times one, the highest 32-bit integer is `2 ^ 31` and saturates, and its opposite is exactly the
lowest one. -/
theorem scale_symmetric_one :
    (scale (Element.clamp .s32 (-1)) (ofBits 0x3F800000)).val ≤
      (scale (Element.clamp .s32 2147483647) (ofBits 0x3F800000)).val ∧
    ∃ above : ElementType.s32.lowest < (Element.clamp .s32 2147483647).val,
      Element.Mirrors (scale (Element.clamp .s32 2147483647) (ofBits 0x3F800000))
        (scale ((Element.clamp .s32 2147483647).opposite above) (ofBits 0x3F800000)) ∧
      (scale (Element.clamp .s32 2147483647) (ofBits 0x3F800000)).val =
        ElementType.s32.highest ∧
      (scale ((Element.clamp .s32 2147483647).opposite above) (ofBits 0x3F800000)).val =
        ElementType.s32.lowest := by
  rcases scale_symmetric (ofBits 0x3F800000) with ⟨ordered, symmetric⟩
  refine ⟨ordered (by decide) _ _ (by decide), by decide, (symmetric _ (by decide)).1, ?_, ?_⟩
  · decide +kernel
  · decide +kernel

end Binary32

end IntegerPooling
