import IntegerPooling.Proofs.Binary32.Scale

/-!
# Scaling keeps order

Codes are ordered like the numbers they stand for (`units_mono`), and rounding keeps the order of
quotients with one denominator: within a binade because the nearest integer does, and across binades
because the last code of one is not above the first code of the next (`roundCode_mono`). As rounding
sees a quotient and not how it is written, a larger denominator gives no larger code
(`roundCode_antitone`).

The size of a product does not depend on the signs of its factors, so a scaled sum is a size with a
sign, clamped (`scale_eq`). The size grows with that of the sum (`scaledSize_mono`), whatever the
factor is, a subnormal number or infinity not excepted; hence scaling by a factor without a sign
keeps the order of sums (`scale_mono`).
-/

namespace IntegerPooling

namespace Binary32

theorem doublings_mono {smaller larger : Nat} (denominator : Nat) (ordered : smaller ≤ larger) :
    doublings smaller denominator ≤ doublings larger denominator := by
  have quotients := Nat.div_le_div_right (c := denominator) ordered
  have exponents : Nat.log2 (smaller / denominator) ≤ Nat.log2 (larger / denominator) := by
    rcases Nat.eq_zero_or_pos (smaller / denominator) with zero | positive
    · rw [zero]
      exact Nat.zero_le _
    · apply (Nat.le_log2 (by omega)).mpr
      exact Nat.le_trans (Nat.log2_self_le (by omega)) quotients
  rw [doublings, doublings]
  omega

/-- The code of a quotient of units, before it is cut off at infinity. -/
def unitsCode (scaled denominator : Nat) : Nat :=
  doublings scaled denominator * 2 ^ 23 + nearestEven scaled (quantum scaled denominator)

theorem unitsCode_mono {smaller larger denominator : Nat} (positive : 0 < denominator)
    (ordered : smaller ≤ larger) :
    unitsCode smaller denominator ≤ unitsCode larger denominator := by
  have shifts := doublings_mono denominator ordered
  rw [unitsCode, unitsCode]
  by_cases sameBinade : doublings smaller denominator = doublings larger denominator
  · have significands := nearestEven_mono (quantum larger denominator) ordered
    rw [quantum, sameBinade, ← quantum]
    omega
  · have upper := significand_le smaller positive
    have lower := le_significand larger positive (by omega)
    omega

/-- Of two quotients with one denominator the larger one gets no smaller code. -/
theorem roundCode_mono {smaller larger denominator : Nat} (positive : 0 < denominator)
    (ordered : smaller ≤ larger) :
    roundCode smaller denominator ≤ roundCode larger denominator := by
  have codes := unitsCode_mono positive (Nat.mul_le_mul_right (2 ^ 149) ordered)
  exact Nat.le_min.mpr ⟨Nat.min_le_left _ _, Nat.le_trans (Nat.min_le_right _ _) codes⟩

theorem roundCode_mul_right {factor : Nat} (positive : 0 < factor) (numerator denominator : Nat) :
    roundCode (numerator * factor) (denominator * factor) = roundCode numerator denominator := by
  have scaledEq : numerator * factor * 2 ^ 149 = numerator * 2 ^ 149 * factor :=
    Nat.mul_right_comm _ _ _
  have doublingsEq : doublings (numerator * 2 ^ 149 * factor) (denominator * factor) =
      doublings (numerator * 2 ^ 149) denominator := by
    rw [doublings, doublings, Nat.mul_div_mul_right _ _ positive]
  rw [roundCode, roundCode, scaledEq, doublingsEq, Nat.mul_right_comm denominator,
    nearestEven_mul_right positive]

/-- Of two quotients with one numerator the one with the larger denominator gets no larger code. -/
theorem roundCode_antitone (numerator : Nat) {smaller larger : Nat} (positive : 0 < smaller)
    (ordered : smaller ≤ larger) : roundCode numerator larger ≤ roundCode numerator smaller := by
  have largerPos : 0 < larger := Nat.lt_of_lt_of_le positive ordered
  calc roundCode numerator larger
      = roundCode (numerator * smaller) (larger * smaller) :=
        (roundCode_mul_right positive numerator larger).symm
    _ ≤ roundCode (numerator * larger) (larger * smaller) :=
        roundCode_mono (Nat.mul_pos largerPos positive) (Nat.mul_le_mul_left numerator ordered)
    _ = roundCode (numerator * larger) (smaller * larger) := by rw [Nat.mul_comm larger smaller]
    _ = roundCode numerator smaller := roundCode_mul_right largerPos numerator smaller

/-- A larger code stands for a larger number of units. -/
theorem units_mono {smaller larger : Binary32} (ordered : smaller.magnitude ≤ larger.magnitude) :
    smaller.units ≤ larger.units := by
  have binades := Nat.div_le_div_right (c := 2 ^ 23) ordered
  rw [units, units]
  split
  · rename_i subnormal
    split
    · exact ordered
    · -- Every normal number has at least the units of the first one.
      calc smaller.magnitude
          ≤ 2 ^ 23 + larger.magnitude % 2 ^ 23 := by omega
        _ ≤ (2 ^ 23 + larger.magnitude % 2 ^ 23) * 2 ^ (larger.magnitude / 2 ^ 23 - 1) :=
            Nat.le_mul_of_pos_right _ (Nat.two_pow_pos _)
  · rename_i normal
    rw [if_neg (by omega)]
    by_cases sameBinade : smaller.magnitude / 2 ^ 23 = larger.magnitude / 2 ^ 23
    · rw [sameBinade]
      exact Nat.mul_le_mul_right _ (by omega)
    · have nextBinade : smaller.magnitude / 2 ^ 23 - 1 + 1 ≤ larger.magnitude / 2 ^ 23 - 1 := by
        omega
      calc (2 ^ 23 + smaller.magnitude % 2 ^ 23) * 2 ^ (smaller.magnitude / 2 ^ 23 - 1)
          ≤ 2 ^ 23 * 2 * 2 ^ (smaller.magnitude / 2 ^ 23 - 1) :=
            Nat.mul_le_mul_right _ (by omega)
        _ = 2 ^ 23 * 2 ^ (smaller.magnitude / 2 ^ 23 - 1 + 1) := by
            rw [Nat.mul_assoc, Nat.pow_succ' (n := smaller.magnitude / 2 ^ 23 - 1)]
        _ ≤ (2 ^ 23 + larger.magnitude % 2 ^ 23) * 2 ^ (larger.magnitude / 2 ^ 23 - 1) :=
            Nat.mul_le_mul (by omega) (Nat.pow_le_pow_right (by decide) nextBinade)

/-- The size of the integer nearest to a number, zero if it is no number at all. -/
def wholeSize (number : Binary32) : Nat :=
  if number.isNaN then 0 else nearestEven number.units (2 ^ 149)

theorem toElement_eq (number : Binary32) :
    number.toElement = Element.clamp .s32
      (if number.negative then -(number.wholeSize : Int) else number.wholeSize) := by
  rw [toElement, wholeSize, nearestInt]
  by_cases none : number.isNaN
  · simp [none]
    decide
  · simp [none]

theorem wholeSize_mono {smaller larger : Binary32}
    (ordered : smaller.magnitude ≤ larger.magnitude) (someNumber : larger.isNaN = false) :
    smaller.wholeSize ≤ larger.wholeSize := by
  have sizes := nearestEven_mono (2 ^ 149) (units_mono ordered)
  simp only [wholeSize, someNumber]
  split
  · exact Nat.zero_le _
  · exact sizes

theorem wholeSize_congr {left right : Binary32} (same : left.magnitude = right.magnitude) :
    left.wholeSize = right.wholeSize := by
  rcases left with ⟨_, magnitude, _⟩
  rcases right with ⟨_, other, _⟩
  cases same
  rfl

theorem magnitude_mul (left right : Binary32) :
    (mul left right).magnitude =
      if left.isNaN || right.isNaN then notANumber.magnitude
      else if left.isInfinite || right.isInfinite then
        if left.isZero || right.isZero then notANumber.magnitude else infinityCode
      else roundCode (left.units * right.units) (2 ^ 298) := by
  rw [mul]
  split_ifs <;> rfl

section Infinite

variable {left right : Binary32} (leftFinite : left.Finite)
  (infinite : right.magnitude = infinityCode)

include leftFinite infinite

theorem magnitude_mul_infinite (nonzero : left.magnitude ≠ 0) :
    (mul left right).magnitude = infinityCode := by
  have someNumber : right.isNaN = false := decide_eq_false (by omega)
  have isInfinite : right.isInfinite = true := decide_eq_true infinite
  have leftNonzero : left.isZero = false := decide_eq_false nonzero
  have rightNonzero : right.isZero = false := decide_eq_false (by rw [infinite]; decide)
  simp [magnitude_mul, isNaN_eq_false leftFinite, someNumber, isInfinite, leftNonzero, rightNonzero]

/-- Zero times infinity is no number. -/
theorem magnitude_mul_infinite_of_zero (zero : left.magnitude = 0) :
    (mul left right).magnitude = notANumber.magnitude := by
  have someNumber : right.isNaN = false := decide_eq_false (by omega)
  have isInfinite : right.isInfinite = true := decide_eq_true infinite
  have isZero : left.isZero = true := decide_eq_true zero
  simp [magnitude_mul, isNaN_eq_false leftFinite, someNumber, isInfinite, isZero]

end Infinite

/-- The size of a product does not depend on the sign of a factor. -/
theorem wholeSize_mul_congr {left other : Binary32} (right : Binary32)
    (same : left.magnitude = other.magnitude) :
    (mul left right).wholeSize = (mul other right).wholeSize := by
  apply wholeSize_congr
  rw [magnitude_mul, magnitude_mul]
  rcases left with ⟨_, magnitude, _⟩
  rcases other with ⟨_, otherMagnitude, _⟩
  cases same
  rfl

theorem negative_mul {left right : Binary32} (someNumber : (mul left right).isNaN = false) :
    (mul left right).negative = (left.negative != right.negative) := by
  revert someNumber
  simp only [mul]
  split_ifs
  · intro impossible
    cases impossible
  · intro impossible
    cases impossible
  · intro _
    rfl
  · intro _
    rfl

/-- The size of a sum scaled by a factor, as a whole number. -/
def scaledSize (size : Nat) (factor : Binary32) : Nat :=
  (mul (ofNat size) factor).wholeSize

/-- A scaled sum is the scaled size of the sum with a sign, clamped into 32 bits. -/
theorem scale_eq (sum : Element .s32) (factor : Binary32) :
    scale sum factor = Element.clamp .s32
      (if decide (sum.val < 0) != factor.negative then -(scaledSize sum.val.natAbs factor : Int)
      else scaledSize sum.val.natAbs factor) := by
  have sizeEq : (mul (ofInt sum.val) factor).wholeSize = scaledSize sum.val.natAbs factor :=
    wholeSize_mul_congr factor rfl
  rw [scale, toElement_eq, sizeEq]
  cases none : (mul (ofInt sum.val) factor).isNaN with
  | false =>
    rw [negative_mul none]
    rfl
  | true =>
    -- Both signs of zero are zero.
    have zeroSize : scaledSize sum.val.natAbs factor = 0 := by
      rw [← sizeEq, wholeSize, none]
      rfl
    simp [zeroSize]

/-- A larger sum, in size, scales to a larger one. -/
theorem scaledSize_mono {smaller larger : Nat} (fits : larger < 2 ^ 64) (ordered : smaller ≤ larger)
    (factor : Binary32) : scaledSize smaller factor ≤ scaledSize larger factor := by
  have codes : (ofNat smaller).magnitude ≤ (ofNat larger).magnitude :=
    roundCode_mono Nat.one_pos ordered
  have largerFinite := (units_ofNat fits).1
  have smallerFinite := (units_ofNat (Nat.lt_of_le_of_lt ordered fits)).1
  rcases Nat.lt_trichotomy factor.magnitude infinityCode with finite | infinite | none
  · apply wholeSize_mono
    · rw [mul_of_finite smallerFinite finite, mul_of_finite largerFinite finite]
      exact roundCode_mono (by omega) (Nat.mul_le_mul_right _ (units_mono codes))
    · rw [mul_of_finite largerFinite finite, isNaN_round]
  · by_cases zero : (ofNat smaller).magnitude = 0
    · have noSize : scaledSize smaller factor = 0 :=
        wholeSize_congr (magnitude_mul_infinite_of_zero smallerFinite infinite zero)
      rw [noSize]
      exact Nat.zero_le _
    · have sameSize : scaledSize smaller factor = scaledSize larger factor := by
        apply wholeSize_congr
        rw [magnitude_mul_infinite smallerFinite infinite zero,
          magnitude_mul_infinite largerFinite infinite (by omega)]
      exact Nat.le_of_eq sameSize
  · have isNaN : factor.isNaN = true := decide_eq_true none
    have sameSize : scaledSize smaller factor = scaledSize larger factor := by
      apply wholeSize_congr
      rw [magnitude_mul, magnitude_mul, isNaN, Bool.or_true, Bool.or_true, if_pos rfl, if_pos rfl]
    exact Nat.le_of_eq sameSize

/-- Scaling by a factor without a sign keeps the order of sums. -/
theorem scale_mono {factor : Binary32} (unsigned : factor.negative = false)
    {smaller larger : Element .s32} (ordered : smaller.val ≤ larger.val) :
    (scale smaller factor).val ≤ (scale larger factor).val := by
  have smallerBounds := And.intro smaller.lowest_le smaller.le_highest
  have largerBounds := And.intro larger.lowest_le larger.le_highest
  simp only [ElementType.lowest, ElementType.highest] at smallerBounds largerBounds
  rw [scale_eq, scale_eq, unsigned]
  apply Element.val_clamp_mono
  simp only [Bool.bne_false, decide_eq_true_eq]
  by_cases largerNegative : larger.val < 0
  · have sizes := scaledSize_mono (show smaller.val.natAbs < 2 ^ 64 by omega)
      (show larger.val.natAbs ≤ smaller.val.natAbs by omega) factor
    rw [if_pos largerNegative, if_pos (by omega)]
    omega
  · rw [if_neg largerNegative]
    by_cases smallerNegative : smaller.val < 0
    · rw [if_pos smallerNegative]
      omega
    · have sizes := scaledSize_mono (show larger.val.natAbs < 2 ^ 64 by omega)
        (show smaller.val.natAbs ≤ larger.val.natAbs by omega) factor
      rw [if_neg smallerNegative]
      omega

end Binary32

end IntegerPooling
