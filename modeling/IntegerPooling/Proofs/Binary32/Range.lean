import IntegerPooling.Proofs.Binary32.Order
import Mathlib.Tactic.GCongr

/-!
# A scaled sum stays between the bounds of its terms

A sum of at most `count * bound` in size is scaled by the factor of `count` to at most `bound`, and
one of at least `count * bound` to at least `bound`. All four roundings together move the quotient
by hardly more than four parts in `2 ^ 24`, which is less than a half as long as the bound is small
(`scaledSize_le`, `le_scaledSize`). For the lower bound the count itself has to be exact; for the
upper bound it may have any size.
-/

namespace IntegerPooling

/-- What is less than a half above a whole number is rounded to at most that number. -/
theorem nearestEven_le_of_lt {numerator denominator bound : Nat} (positive : 0 < denominator)
    (close : 2 * numerator < 2 * (bound * denominator) + denominator) :
    nearestEven numerator denominator ≤ bound := by
  have error := (@nearestEven_error numerator denominator positive).1
  apply Nat.le_of_lt_succ
  apply Nat.lt_of_mul_lt_mul_left (a := denominator)
  rw [Nat.mul_succ, Nat.mul_comm denominator bound]
  omega

/-- What is less than a half below a whole number is rounded to at least that number. -/
theorem le_nearestEven_of_lt {numerator denominator bound : Nat} (positive : 0 < denominator)
    (close : 2 * (bound * denominator) < 2 * numerator + denominator) :
    bound ≤ nearestEven numerator denominator := by
  have error := (@nearestEven_error numerator denominator positive).2
  apply Nat.le_of_lt_succ
  apply Nat.lt_of_mul_lt_mul_left (a := denominator)
  rw [Nat.mul_succ, Nat.mul_comm denominator bound]
  omega

/-- Clamping into a type keeps bounds that belong to the type. -/
theorem Element.val_clamp_between {t : ElementType} {low value high : Int}
    (lowIn : t.lowest ≤ low) (highIn : high ≤ t.highest) (leValue : low ≤ value)
    (valueLe : value ≤ high) :
    low ≤ (Element.clamp t value).val ∧ (Element.clamp t value).val ≤ high := by
  have exact : (Element.clamp t value).val = value :=
    val_clamp_of_bounds (Int.le_trans lowIn leValue) (Int.le_trans valueLe highIn)
  rw [exact]
  exact ⟨leValue, valueLe⟩

namespace Binary32

variable {count total bound : Nat}

theorem le_units_perCount (positive : 0 < count) (fits : count < 2 ^ 64) :
    2 ^ 83 ≤ (perCount count).units := by
  have productLe := Nat.mul_le_mul_right (perCount count).units (units_ofNat_le fits)
  have near := (units_perCount positive fits).2.2
  omega

/-- The scaled size is the nearest integer to something near the product of the two rounded
factors. -/
theorem exists_product (positive : 0 < count) (fits : count < 2 ^ 64) (short : total < 2 ^ 32) :
    ∃ product, scaledSize total (perCount count) = nearestEven product (2 ^ 149) ∧
      Near (2 ^ 149 * product) ((ofNat total).units * (perCount count).units) := by
  rcases @units_ofNat total (by omega) with ⟨totalFinite, totalNear⟩
  have factorFinite := (units_perCount positive fits).1
  have leFactor := le_units_perCount positive fits
  have factorLe := units_perCount_le positive fits
  have productEq := mul_of_finite totalFinite factorFinite
  have small : (ofNat total).units * (perCount count).units < 2 ^ 64 * (2 ^ 149 * 2 ^ 149) := by
    have totalLe : (ofNat total).units ≤ 2 ^ 33 * 2 ^ 149 := by
      have := totalNear.1
      omega
    have := Nat.mul_le_mul totalLe factorLe
    omega
  have rounded := units_round ((ofNat total).negative != (perCount count).negative)
    ((ofNat total).units * (perCount count).units) (by omega) small
  rw [← productEq] at rounded
  have normal : 2 ^ 149 * 2 ^ 149 ∣ (ofNat total).units * (perCount count).units * 2 ^ 149 ∨
      2 ^ 149 * 2 ^ 149 * 2 ^ 23 ≤ (ofNat total).units * (perCount count).units * 2 ^ 149 := by
    by_cases empty : total = 0
    · have zero : (ofNat total).units = 0 := by
        have := totalNear.1
        omega
      rw [zero, Nat.zero_mul, Nat.zero_mul]
      exact Or.inl (Nat.dvd_zero _)
    · have := Nat.mul_le_mul (@le_units_ofNat total (by omega) (by omega)) leFactor
      exact Or.inr (by omega)
  have near := near_roundUnits _ (by omega) normal
  rw [← rounded.2, Nat.mul_assoc, Nat.mul_comm _ (2 ^ 149)] at near
  refine ⟨_, if_neg (by rw [isNaN_eq_false rounded.1]; decide), ?_⟩
  exact near.of_mul_left (Nat.two_pow_pos 149)

section Product

variable {totalUnits factor product unit : Nat}

/-- The product of a total with a reciprocal is hardly larger than the bound of the quotient when
each of the two is off by hardly more than one part in `2 ^ 24`, and so is their product. -/
theorem product_le (unitPos : 0 < unit) (totalLe : total ≤ count * bound) (small : bound ≤ 2 ^ 20)
    (totalNear : Near totalUnits (total * unit))
    (factorLe : (2 ^ 24 - 1) * (count * factor) ≤ (2 ^ 24 + 1) * unit)
    (productNear : Near (unit * product) (totalUnits * factor)) :
    2 * product < 2 * (bound * unit) + unit := by
  have totalsLe : factor * (total * unit) ≤ bound * unit * (count * factor) :=
    calc factor * (total * unit)
        ≤ factor * (count * bound * unit) := by gcongr
      _ = bound * unit * (count * factor) := by ring
  have factorUpper : (2 ^ 24 - 1) * (bound * unit * (count * factor)) ≤
      (2 ^ 24 + 1) * (bound * unit * unit) :=
    calc (2 ^ 24 - 1) * (bound * unit * (count * factor))
        = bound * unit * ((2 ^ 24 - 1) * (count * factor)) := by ring
      _ ≤ bound * unit * ((2 ^ 24 + 1) * unit) := by gcongr
      _ = (2 ^ 24 + 1) * (bound * unit * unit) := by ring
  have boundLe : bound * unit * unit ≤ 2 ^ 20 * (unit * unit) := by
    rw [Nat.mul_assoc]
    gcongr
  have unitsPos : 0 < unit * unit := Nat.mul_pos unitPos unitPos
  have productUpper := productNear.1
  have totalUpper := (totalNear.mul_left factor).1
  rw [Nat.mul_comm factor totalUnits] at totalUpper
  have close : 2 * (unit * product) < 2 * (bound * unit * unit) + unit * unit := by omega
  apply Nat.lt_of_mul_lt_mul_left (a := unit)
  calc unit * (2 * product)
      = 2 * (unit * product) := by ring
    _ < 2 * (bound * unit * unit) + unit * unit := close
    _ = unit * (2 * (bound * unit) + unit) := by ring

/-- The product is hardly smaller than the bound if the total is not, in the same way. -/
theorem le_product (unitPos : 0 < unit) (leTotal : count * bound ≤ total) (small : bound ≤ 2 ^ 20)
    (totalNear : Near totalUnits (total * unit)) (factorNear : Near (count * factor) unit)
    (productNear : Near (unit * product) (totalUnits * factor)) :
    2 * (bound * unit) < 2 * product + unit := by
  have leTotals : bound * unit * (count * factor) ≤ factor * (total * unit) :=
    calc bound * unit * (count * factor)
        = factor * (count * bound * unit) := by ring
      _ ≤ factor * (total * unit) := by gcongr
  have factorLower := (factorNear.mul_left (bound * unit)).2
  have boundLe : bound * unit * unit ≤ 2 ^ 20 * (unit * unit) := by
    rw [Nat.mul_assoc]
    gcongr
  have unitsPos : 0 < unit * unit := Nat.mul_pos unitPos unitPos
  have productLower := productNear.2
  have totalLower := (totalNear.mul_left factor).2
  rw [Nat.mul_comm factor totalUnits] at totalLower
  have close : 2 * (bound * unit * unit) < 2 * (unit * product) + unit * unit := by omega
  apply Nat.lt_of_mul_lt_mul_left (a := unit)
  calc unit * (2 * (bound * unit))
      = 2 * (bound * unit * unit) := by ring
    _ < 2 * (unit * product) + unit * unit := close
    _ = unit * (2 * product + unit) := by ring

end Product

theorem scaledSize_le (positive : 0 < count) (fits : count < 2 ^ 64) (short : total < 2 ^ 32)
    (small : bound ≤ 2 ^ 20) (totalLe : total ≤ count * bound) :
    scaledSize total (perCount count) ≤ bound := by
  rcases exists_product positive fits short with ⟨product, sizeEq, productNear⟩
  rw [sizeEq]
  apply nearestEven_le_of_lt (Nat.two_pow_pos 149)
  exact product_le (Nat.two_pow_pos 149) totalLe small (units_ofNat (by omega)).2
    (mul_units_perCount_le positive fits) productNear

theorem le_scaledSize (positive : 0 < count) (exactCount : count < 2 ^ 24) (short : total < 2 ^ 32)
    (small : bound ≤ 2 ^ 20) (leTotal : count * bound ≤ total) :
    bound ≤ scaledSize total (perCount count) := by
  rcases exists_product positive (by omega) short with ⟨product, sizeEq, productNear⟩
  rw [sizeEq]
  apply le_nearestEven_of_lt (Nat.two_pow_pos 149)
  exact le_product (Nat.two_pow_pos 149) leTotal small (units_ofNat (by omega)).2
    (near_mul_perCount positive exactCount) productNear

/-- The scaled size of a sum without a sign lies between the bounds of the quotient, of which the
lower one may be negative. -/
theorem scaledSize_between {low high : Int} (positive : 0 < count) (fits : count < 2 ^ 64)
    (short : total < 2 ^ 32) (lower : count * low ≤ total) (upper : (total : Int) ≤ count * high)
    (small : high ≤ 2 ^ 20) (exactCount : count < 2 ^ 24 ∨ low ≤ 0) :
    low ≤ scaledSize total (perCount count) ∧ (scaledSize total (perCount count) : Int) ≤ high := by
  have countPos : (0 : Int) < count := Int.natCast_pos.mpr positive
  have highNonneg : 0 ≤ high := by
    by_contra negative
    have := Int.mul_neg_of_pos_of_neg countPos (Int.not_le.mp negative)
    omega
  obtain ⟨highSize, rfl⟩ := Int.eq_ofNat_of_zero_le highNonneg
  rw [← Int.natCast_mul] at upper
  have sizeLe : scaledSize total (perCount count) ≤ highSize :=
    scaledSize_le positive fits short (by omega) (by omega)
  refine ⟨?_, by omega⟩
  by_cases lowNonpos : low ≤ 0
  · omega
  · obtain ⟨lowSize, rfl⟩ := Int.eq_ofNat_of_zero_le (Int.le_of_lt (Int.not_le.mp lowNonpos))
    rw [← Int.natCast_mul] at lower
    have lowLe : lowSize ≤ highSize := by
      apply Nat.le_of_mul_le_mul_left _ positive
      omega
    have leSize : lowSize ≤ scaledSize total (perCount count) :=
      le_scaledSize positive (exactCount.resolve_right lowNonpos) short (by omega) (by omega)
    omega

/-- A sum between `count` times two bounds is scaled to something between the bounds. A count that
is not exact is no obstacle to bounds on both sides of zero. -/
theorem scale_perCount_between {sum : Element .s32} {low high : Int} (positive : 0 < count)
    (fits : count < 2 ^ 64) (lower : count * low ≤ sum.val) (upper : sum.val ≤ count * high)
    (lowSmall : -(2 ^ 20 : Int) ≤ low) (highSmall : high ≤ 2 ^ 20)
    (exactCount : count < 2 ^ 24 ∨ (low ≤ 0 ∧ 0 ≤ high)) :
    low ≤ (scale sum (perCount count)).val ∧ (scale sum (perCount count)).val ≤ high := by
  have sumLower := sum.lowest_le
  have sumUpper := sum.le_highest
  simp only [ElementType.lowest, ElementType.highest] at sumLower sumUpper
  have lowIn : ElementType.s32.lowest ≤ low := by
    rw [ElementType.lowest]
    omega
  have highIn : high ≤ ElementType.s32.highest := by
    rw [ElementType.highest]
    omega
  rw [scale_eq, negative_perCount positive fits]
  simp only [Bool.bne_false, decide_eq_true_eq]
  by_cases negative : sum.val < 0
  · -- With the signs turned the bounds change places.
    have sizeEq : (sum.val.natAbs : Int) = -sum.val := by omega
    have between := @scaledSize_between count sum.val.natAbs (-high) (-low) positive fits
      (by omega) (by rw [Int.mul_neg]; omega) (by rw [Int.mul_neg]; omega) (by omega) (by omega)
    rw [if_pos negative]
    exact Element.val_clamp_between lowIn highIn (by omega) (by omega)
  · have sizeEq : (sum.val.natAbs : Int) = sum.val := by omega
    have between := @scaledSize_between count sum.val.natAbs low high positive fits
      (by omega) (by omega) (by omega) highSmall (by omega)
    rw [if_neg negative]
    exact Element.val_clamp_between lowIn highIn between.1 between.2

end Binary32

end IntegerPooling
