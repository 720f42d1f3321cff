/-!
# The nearest integer to a quotient

`nearestEven` rounds a quotient of natural numbers to the nearest integer and a half to the even
one of its two neighbours. Its error is at most a half (`nearestEven_error`) and it keeps order
(`nearestEven_mono`); every rounding of the library goes through it.
-/

namespace IntegerPooling

/-- The integer nearest to a quotient, the even one of two that are equally near. -/
def nearestEven (numerator denominator : Nat) : Nat :=
  let quotient := numerator / denominator
  let remainder := numerator % denominator
  if denominator < 2 * remainder ∨ (2 * remainder = denominator ∧ quotient % 2 = 1) then
    quotient + 1
  else
    quotient

/-- Rounding moves a quotient by at most a half. -/
theorem nearestEven_error {numerator denominator : Nat} (positive : 0 < denominator) :
    2 * (denominator * nearestEven numerator denominator) ≤ 2 * numerator + denominator ∧
      2 * numerator ≤ 2 * (denominator * nearestEven numerator denominator) + denominator := by
  have division := Nat.div_add_mod numerator denominator
  have below := Nat.mod_lt numerator positive
  unfold nearestEven
  simp only
  split
  · rw [Nat.mul_add, Nat.mul_one]
    omega
  · omega

theorem nearestEven_mono {smaller larger : Nat} (denominator : Nat) (ordered : smaller ≤ larger) :
    nearestEven smaller denominator ≤ nearestEven larger denominator := by
  have quotients := Nat.div_le_div_right (c := denominator) ordered
  have smallerDivision := Nat.div_add_mod smaller denominator
  have largerDivision := Nat.div_add_mod larger denominator
  unfold nearestEven
  simp only
  by_cases same : smaller / denominator = larger / denominator
  · rw [same] at smallerDivision ⊢
    split <;> split <;> omega
  · split <;> split <;> omega

theorem nearestEven_mul_left {denominator : Nat} (positive : 0 < denominator) (quotient : Nat) :
    nearestEven (denominator * quotient) denominator = quotient := by
  unfold nearestEven
  simp only [Nat.mul_mod_right, Nat.mul_div_cancel_left quotient positive]
  rw [if_neg (by omega)]

/-- Rounding sees the quotient only, not the fraction it is written as. -/
theorem nearestEven_mul_right {factor : Nat} (positive : 0 < factor) (numerator denominator : Nat) :
    nearestEven (numerator * factor) (denominator * factor) =
      nearestEven numerator denominator := by
  have aboveIff : denominator * factor < 2 * (numerator % denominator * factor) ↔
      denominator < 2 * (numerator % denominator) := by
    rw [← Nat.mul_assoc]
    exact Nat.mul_lt_mul_right positive
  have tieIff : 2 * (numerator % denominator * factor) = denominator * factor ↔
      2 * (numerator % denominator) = denominator := by
    rw [← Nat.mul_assoc]
    exact Nat.mul_right_cancel_iff positive
  simp only [nearestEven, Nat.mul_div_mul_right _ _ positive, Nat.mul_mod_mul_right, aboveIff,
    tieIff]

end IntegerPooling
