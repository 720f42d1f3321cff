import IntegerPooling.Binary32.Scale
import IntegerPooling.Proofs.Binary32.Rounding

/-!
# The error of a scaled sum

Scaling a sum by the factor of a count rounds four times: the sum, the count, the reciprocal and
the product. A sum of at most `2 ^ 22` in size is exact, and so is a count below `2 ^ 24`. The two
roundings that are left move the quotient by less than half of one part of the count
(`product_close`), which is too little to carry it past a point halfway between two integers: at
such a point itself both neighbours are nearest. For larger counts the quotient is so small that
it is rounded to zero either way. So the result is always an integer nearest to the exact quotient
(`scale_perCount_nearest`).

At `2 ^ 22` itself the error of the product would be too large, but multiplying by a power of two
does not round at all (`units_mul_ofInt_of_power`).
-/

namespace IntegerPooling

/-- An integer nearest to something that is closer to a fraction than half of one part is nearest
to the fraction itself. -/
theorem nearestEven_of_close {count total approximation unit : Nat} (unitPos : 0 < unit)
    (notAbove : 2 * (count * approximation) < 2 * (total * unit) + unit)
    (notBelow : 2 * (total * unit) < 2 * (count * approximation) + unit) :
    2 * (count * nearestEven approximation unit) ≤ 2 * total + count ∧
      2 * total ≤ 2 * (count * nearestEven approximation unit) + count := by
  have error := @nearestEven_error approximation unit unitPos
  generalize nearestEven approximation unit = nearest at error ⊢
  have upper := Nat.mul_le_mul_left count error.1
  have lower := Nat.mul_le_mul_left count error.2
  have exchange : count * (2 * (unit * nearest)) = unit * (2 * (count * nearest)) := by ac_rfl
  rw [Nat.mul_add, exchange, Nat.mul_left_comm count 2] at upper lower
  constructor
  · apply Nat.le_of_lt_succ
    apply Nat.lt_of_mul_lt_mul_left (a := unit)
    calc unit * (2 * (count * nearest))
        ≤ 2 * (count * approximation) + count * unit := upper
      _ < 2 * (total * unit) + unit + count * unit := Nat.add_lt_add_right notAbove _
      _ = unit * (2 * total + count).succ := by rw [Nat.succ_eq_add_one]; ring
  · apply Nat.le_of_lt_succ
    apply Nat.lt_of_mul_lt_mul_left (a := unit)
    calc unit * (2 * total)
        = 2 * (total * unit) := by ring
      _ < 2 * (count * approximation) + unit := notBelow
      _ ≤ unit * (2 * (count * nearest)) + count * unit + unit := Nat.add_le_add_right lower _
      _ = unit * (2 * (count * nearest) + count).succ := by rw [Nat.succ_eq_add_one]; ring

/-- A quotient of at most a half goes to zero, the even neighbour. -/
theorem nearestEven_eq_zero {numerator denominator : Nat} (positive : 0 < denominator)
    (half : 2 * numerator ≤ denominator) : nearestEven numerator denominator = 0 := by
  have below : numerator < denominator := by omega
  unfold nearestEven
  simp only [Nat.div_eq_of_lt below, Nat.mod_eq_of_lt below]
  rw [if_neg (by omega)]

namespace Binary32

/-- The product of a total with a reciprocal comes close enough to the quotient when each of the
two is off by at most one part in `2 ^ 24`. -/
theorem product_close {count total factor product unit : Nat} (unitPos : 0 < unit)
    (totalLe : total ≤ 2 ^ 22) (factorNear : Near (count * factor) unit)
    (productNear : Near product (total * factor))
    (power : total = 2 ^ 22 → product = total * factor) :
    2 * (count * product) < 2 * (total * unit) + unit ∧
      2 * (total * unit) < 2 * (count * product) + unit := by
  have exchange : count * (total * factor) = total * (count * factor) := by ac_rfl
  have scaledFactor := factorNear.mul_left total
  have scaledProduct := productNear.mul_left count
  rw [exchange] at scaledProduct
  rcases scaledFactor with ⟨factorUpper, factorLower⟩
  rcases scaledProduct with ⟨productUpper, productLower⟩
  by_cases largest : total = 2 ^ 22
  · have productEq := power largest
    have same : count * product = total * (count * factor) := by rw [productEq, exchange]
    have totalUnit : total * unit = 2 ^ 22 * unit := by rw [largest]
    omega
  · have totalUnit : total * unit ≤ (2 ^ 22 - 1) * unit :=
      Nat.mul_le_mul_right unit (by omega)
    omega

variable {count : Nat}

theorem isNaN_eq_false {number : Binary32} (finite : number.Finite) : number.isNaN = false :=
  decide_eq_false (Nat.not_lt_of_lt finite)

theorem isInfinite_eq_false {number : Binary32} (finite : number.Finite) :
    number.isInfinite = false :=
  decide_eq_false (Nat.ne_of_lt finite)

theorem isZero_eq_false {number : Binary32} (positive : 0 < number.units) :
    number.isZero = false := by
  apply decide_eq_false
  intro zero
  rw [units, zero] at positive
  exact absurd positive (by decide)

theorem mul_of_finite {left right : Binary32} (leftFinite : left.Finite)
    (rightFinite : right.Finite) :
    mul left right =
      round (left.negative != right.negative) (left.units * right.units) (2 ^ 149 * 2 ^ 149) := by
  have denominatorEq : 2 ^ 298 = 2 ^ 149 * 2 ^ 149 := by
    have exponentEq : 298 = 149 + 149 := rfl
    rw [exponentEq]
    exact Nat.pow_add 2 149 149
  simp only [mul, isNaN_eq_false leftFinite, isNaN_eq_false rightFinite,
    isInfinite_eq_false leftFinite, isInfinite_eq_false rightFinite, Bool.or_self, denominatorEq]
  rfl

theorem units_ofNat (fits : count < 2 ^ 64) :
    (ofNat count).Finite ∧ Near (ofNat count).units (count * 2 ^ 149) := by
  have rounded := units_round false count Nat.one_pos (by omega)
  have near := near_roundUnits (count * 2 ^ 149) Nat.one_pos (Or.inl (Nat.one_dvd _))
  rw [Nat.one_mul] at near
  exact ⟨rounded.1, by rw [ofNat, rounded.2]; exact near⟩

/-- A whole number below `2 ^ 24` has an exact counterpart. -/
theorem units_round_of_lt {magnitude : Nat} (negative : Bool) (short : magnitude < 2 ^ 24) :
    (round negative magnitude 1).Finite ∧
      (round negative magnitude 1).units = magnitude * 2 ^ 149 := by
  have rounded := units_round negative magnitude Nat.one_pos (by omega)
  refine ⟨rounded.1, rounded.2.trans ?_⟩
  exact roundUnits_eq _ Nat.one_pos short (Nat.one_mul _).symm

theorem le_units_ofNat (positive : 0 < count) (fits : count < 2 ^ 64) :
    2 ^ 148 ≤ (ofNat count).units := by
  have lower := (units_ofNat fits).2.2
  omega

theorem units_ofNat_le (fits : count < 2 ^ 64) : (ofNat count).units ≤ 2 ^ 65 * 2 ^ 149 := by
  have upper := (units_ofNat fits).2.1
  omega

theorem perCount_eq (positive : 0 < count) (fits : count < 2 ^ 64) :
    perCount count = round false (2 ^ 149) (ofNat count).units := by
  have large := le_units_ofNat positive fits
  rw [perCount, reciprocal, isNaN_eq_false (units_ofNat fits).1,
    isInfinite_eq_false (units_ofNat fits).1, isZero_eq_false (by omega)]
  rfl

/-- The factor of a count in units. -/
theorem units_perCount_eq (positive : 0 < count) (fits : count < 2 ^ 64) :
    (perCount count).Finite ∧
      (perCount count).units = roundUnits (2 ^ 149 * 2 ^ 149) (ofNat count).units := by
  have large := le_units_ofNat positive fits
  rw [perCount_eq positive fits]
  exact units_round false (2 ^ 149) (by omega) (by omega)

/-- The factor of a count times the count, as far as the count itself is exact. -/
theorem tight_units_perCount (positive : 0 < count) (fits : count < 2 ^ 64) :
    Tight ((ofNat count).units * (perCount count).units) (2 ^ 149 * 2 ^ 149) := by
  have lower := le_units_ofNat positive fits
  have upper := units_ofNat_le fits
  rw [(units_perCount_eq positive fits).2]
  exact tight_roundUnits _ (by omega) (by omega)

theorem units_perCount (positive : 0 < count) (fits : count < 2 ^ 64) :
    (perCount count).Finite ∧
      Near ((ofNat count).units * (perCount count).units) (2 ^ 149 * 2 ^ 149) :=
  ⟨(units_perCount_eq positive fits).1, (tight_units_perCount positive fits).near⟩

theorem near_mul_perCount (positive : 0 < count) (short : count < 2 ^ 24) :
    Near (count * (perCount count).units) (2 ^ 149) := by
  have near := (units_perCount positive (by omega)).2
  rw [ofNat, (units_round_of_lt false short).2, Nat.mul_comm count, Nat.mul_assoc] at near
  exact near.of_mul_left (Nat.two_pow_pos _)

/-- The factor of a count times the count is hardly more than one, for counts of any size. -/
theorem mul_units_perCount_le (positive : 0 < count) (fits : count < 2 ^ 64) :
    (2 ^ 24 - 1) * (count * (perCount count).units) ≤ (2 ^ 24 + 1) * 2 ^ 149 := by
  have countLower : (2 ^ 24 - 1) * 2 ^ 149 * count ≤ 2 ^ 24 * (ofNat count).units := by
    have := (units_ofNat fits).2.2
    omega
  have scaled := Nat.mul_le_mul_right (perCount count).units countLower
  have upper := (units_perCount positive fits).2.1
  rw [Nat.mul_assoc, Nat.mul_assoc (2 ^ 24)] at scaled
  omega

theorem units_perCount_le (positive : 0 < count) (fits : count < 2 ^ 64) :
    (perCount count).units ≤ 2 ^ 150 := by
  have productLe := mul_units_perCount_le positive fits
  have unitsLe := Nat.le_mul_of_pos_left (perCount count).units positive
  omega

/-- A number of units never has more than 24 significant bits. -/
theorem units_short (number : Binary32) :
    ∃ significand shift, significand < 2 ^ 24 ∧ number.units = significand * 2 ^ shift := by
  rw [units]
  split
  · rename_i subnormal
    exact ⟨number.magnitude, 0, by omega, by rw [Nat.pow_zero, Nat.mul_one]⟩
  · exact ⟨2 ^ 23 + number.magnitude % 2 ^ 23, number.magnitude / 2 ^ 23 - 1, by omega, rfl⟩

section Product

variable {sum : Int} {factor : Binary32}

theorem units_mul_ofInt (short : sum.natAbs < 2 ^ 24) (finite : factor.Finite)
    (bounded : factor.units ≤ 2 ^ 150) :
    (mul (ofInt sum) factor).Finite ∧
      (mul (ofInt sum) factor).negative = (decide (sum < 0) != factor.negative) ∧
      (mul (ofInt sum) factor).units =
        roundUnits (2 ^ 149 * 2 ^ 149 * (sum.natAbs * factor.units)) (2 ^ 149 * 2 ^ 149) := by
  rcases units_round_of_lt (decide (sum < 0)) short with ⟨sumFinite, sumUnits⟩
  have scaledEq : (ofInt sum).units * factor.units * 2 ^ 149 =
      2 ^ 149 * 2 ^ 149 * (sum.natAbs * factor.units) := by
    rw [ofInt, sumUnits]
    ac_rfl
  have unitsLe := Nat.mul_le_mul (Nat.le_of_lt short) bounded
  have productEq : mul (ofInt sum) factor =
      round ((ofInt sum).negative != factor.negative) ((ofInt sum).units * factor.units)
        (2 ^ 149 * 2 ^ 149) := mul_of_finite sumFinite finite
  have small : (ofInt sum).units * factor.units < 2 ^ 64 * (2 ^ 149 * 2 ^ 149) := by
    rw [ofInt, sumUnits, Nat.mul_right_comm]
    omega
  have rounded := units_round ((ofInt sum).negative != factor.negative)
    ((ofInt sum).units * factor.units) (by omega) small
  rw [scaledEq] at rounded
  rw [productEq]
  exact ⟨rounded.1, rfl, rounded.2⟩

theorem near_units_mul_ofInt (short : sum.natAbs < 2 ^ 24) (finite : factor.Finite)
    (bounded : factor.units ≤ 2 ^ 150) :
    Near (mul (ofInt sum) factor).units (sum.natAbs * factor.units) := by
  have near := near_roundUnits (2 ^ 149 * 2 ^ 149 * (sum.natAbs * factor.units)) (by omega)
    (Or.inl (Nat.dvd_mul_right (2 ^ 149 * 2 ^ 149) _))
  rw [← (units_mul_ofInt short finite bounded).2.2] at near
  exact near.of_mul_left (by omega)

/-- Multiplying by a power of two only moves the significant bits. -/
theorem units_mul_ofInt_of_power {exponent : Nat} (power : sum.natAbs = 2 ^ exponent)
    (short : sum.natAbs < 2 ^ 24) (finite : factor.Finite) (bounded : factor.units ≤ 2 ^ 150) :
    (mul (ofInt sum) factor).units = sum.natAbs * factor.units := by
  rcases units_short factor with ⟨significand, shift, significandLt, unitsEq⟩
  have productEq : sum.natAbs * factor.units = significand * 2 ^ (exponent + shift) := by
    rw [power, unitsEq, Nat.pow_add]
    ac_rfl
  rw [(units_mul_ofInt short finite bounded).2.2, productEq]
  exact roundUnits_eq _ (by omega) significandLt rfl

/-- The product of a sum with the factor of a count, rounded to an integer. -/
theorem nearestEven_product (positive : 0 < count) (fits : count < 2 ^ 64)
    (small : sum.natAbs ≤ 2 ^ 22) :
    2 * (count * nearestEven (mul (ofInt sum) (perCount count)).units (2 ^ 149)) ≤
        2 * sum.natAbs + count ∧
      2 * sum.natAbs ≤
        2 * (count * nearestEven (mul (ofInt sum) (perCount count)).units (2 ^ 149)) + count := by
  have short : sum.natAbs < 2 ^ 24 := by omega
  have finite := (units_perCount positive fits).1
  have bounded := units_perCount_le positive fits
  have productNear := near_units_mul_ofInt short finite bounded
  by_cases exactCount : count < 2 ^ 24
  · have close := product_close (Nat.two_pow_pos 149) small (near_mul_perCount positive exactCount)
      productNear (fun power => units_mul_ofInt_of_power power short finite bounded)
    exact nearestEven_of_close (Nat.two_pow_pos 149) close.1 close.2
  · -- The quotient is at most a quarter, so its approximation is still below a half.
    have factorLe := mul_units_perCount_le positive fits
    have countLe := Nat.mul_le_mul_right (perCount count).units (Nat.le_of_not_lt exactCount)
    have totalLe := Nat.mul_le_mul_right (perCount count).units small
    have half : 2 * (mul (ofInt sum) (perCount count)).units ≤ 2 ^ 149 := by
      have upper := productNear.1
      omega
    rw [nearestEven_eq_zero (Nat.two_pow_pos 149) half]
    omega

theorem negative_perCount (positive : 0 < count) (fits : count < 2 ^ 64) :
    (perCount count).negative = false := by
  rw [perCount_eq positive fits]
  rfl

/-- An integer nearest to a quotient with a positive divisor is no larger than the dividend. -/
theorem le_of_nearest {nearest total : Nat} (positive : 0 < count)
    (upper : 2 * (count * nearest) ≤ 2 * total + count) : nearest ≤ total := by
  apply Nat.le_of_not_lt
  intro larger
  have product := Nat.mul_le_mul_left count (Nat.succ_le_of_lt larger)
  have totalLe := Nat.le_mul_of_pos_left total positive
  rw [Nat.mul_succ] at product
  omega

theorem nearestInt_product (positive : 0 < count) (fits : count < 2 ^ 64)
    (short : sum.natAbs < 2 ^ 24) :
    (mul (ofInt sum) (perCount count)).nearestInt =
      if sum < 0 then
        -(nearestEven (mul (ofInt sum) (perCount count)).units (2 ^ 149) : Int)
      else nearestEven (mul (ofInt sum) (perCount count)).units (2 ^ 149) := by
  have signEq := (units_mul_ofInt short (units_perCount positive fits).1
    (units_perCount_le positive fits)).2.1
  rw [nearestInt, signEq, negative_perCount positive fits]
  by_cases below : sum < 0
  · simp [below]
  · simp [below]

end Product

/-- Scaling a sum by the factor of a count gives an integer nearest to the quotient, for sums up
to `2 ^ 22` in size. -/
theorem scale_perCount_nearest {sum : Element .s32} (positive : 0 < count)
    (fits : count < 2 ^ 64) (small : sum.val.natAbs ≤ 2 ^ 22) :
    2 * (count * (scale sum (perCount count)).val - sum.val).natAbs ≤ count := by
  have short : sum.val.natAbs < 2 ^ 24 := by omega
  have finite := (units_mul_ofInt short (units_perCount positive fits).1
    (units_perCount_le positive fits)).1
  have nearestEq := nearestInt_product positive fits short
  rcases nearestEven_product positive fits small with ⟨upper, lower⟩
  generalize nearestEven (mul (ofInt sum.val) (perCount count)).units (2 ^ 149) = nearest
    at nearestEq upper lower
  have nearestLe := le_of_nearest positive upper
  have scaleEq : (scale sum (perCount count)).val =
      (mul (ofInt sum.val) (perCount count)).nearestInt := by
    rw [scale, toElement, isNaN_eq_false finite, nearestEq]
    apply Element.val_clamp_of_bounds
    · rw [ElementType.lowest]
      split <;> omega
    · rw [ElementType.highest]
      split <;> omega
  rw [scaleEq, nearestEq]
  by_cases below : sum.val < 0
  · have product : (count : Int) * -(nearest : Int) = -((count * nearest : Nat) : Int) := by
      rw [Int.mul_neg, Int.natCast_mul]
    rw [if_pos below, product]
    omega
  · rw [if_neg below, ← Int.natCast_mul]
    omega

end Binary32

end IntegerPooling
