import IntegerPooling.Proofs.Binary32.Range
import Mathlib.Algebra.Order.Field.Basic
import Mathlib.Algebra.Order.Field.Rat
import Mathlib.Data.Nat.Prime.Basic
import Mathlib.Tactic.Linarith

/-!
# The factor of a count as its reciprocal

The factor of a count is rounded twice: the count becomes a number, and so does the reciprocal of
that number. Each rounding moves its exact argument by at most one part in `2 ^ 24 + 1`
(`tight_roundUnits`), which leaves room for just one part in `2 ^ 23` together
(`mul_units_perCount_close`). A power of two is not rounded at all, and no other count has a
reciprocal among the binary fractions (`mul_units_perCount_eq_iff`). As both roundings keep order,
a larger count has no larger factor (`units_perCount_antitone`).

All of this is shown in units of `2 ^ -149` and then read as a statement on rational values.
-/

namespace IntegerPooling

namespace Binary32

/-- Whether a number is finite and has a full significand. -/
def Normal (number : Binary32) : Prop :=
  2 ^ 23 ≤ number.magnitude ∧ number.magnitude < infinityCode

/-- The exact value of a finite number. -/
def value (number : Binary32) : ℚ :=
  if number.negative then -(number.units / 2 ^ 149) else number.units / 2 ^ 149

/-- Whether a number is the reciprocal of a count as far as 24 significant bits go. -/
structure Inverts (number : Binary32) (count : Nat) : Prop where
  value_pos : 0 < number.value
  normal : number.Normal
  close : |count * number.value - 1| ≤ 1 / 2 ^ 23
  exact_iff : number.value = 1 / count ↔ ∃ exponent, count = 2 ^ exponent

theorem normal_of_le_units {number : Binary32} (finite : number.Finite)
    (large : 2 ^ 23 ≤ number.units) : number.Normal := by
  refine ⟨?_, finite⟩
  by_contra subnormal
  rw [units, if_pos (by omega)] at large
  exact subnormal large

/-- A quotient that is a power of two is not rounded. -/
theorem roundUnits_eq_two_pow (scaled : Nat) {denominator shift : Nat} (positive : 0 < denominator)
    (scaledEq : scaled = denominator * 2 ^ shift) : roundUnits scaled denominator = 2 ^ shift := by
  rw [← Nat.one_mul (2 ^ shift)] at scaledEq ⊢
  exact roundUnits_eq scaled positive (by decide) scaledEq

theorem units_perCount_two_pow {exponent : Nat} (fits : 2 ^ exponent < 2 ^ 64) :
    (perCount (2 ^ exponent)).units = 2 ^ (149 - exponent) := by
  have exponentLt : exponent < 64 := (Nat.pow_lt_pow_iff_right (by decide)).mp fits
  have countUnits : (ofNat (2 ^ exponent)).units = 2 ^ (exponent + 149) := by
    rw [ofNat, (units_round false (2 ^ exponent) Nat.one_pos (by omega)).2]
    apply roundUnits_eq_two_pow _ Nat.one_pos
    rw [Nat.one_mul, Nat.pow_add]
  have exponents : 149 + 149 = exponent + 149 + (149 - exponent) := by omega
  rw [(units_perCount_eq (Nat.two_pow_pos _) fits).2, countUnits]
  apply roundUnits_eq_two_pow _ (Nat.two_pow_pos _)
  rw [← Nat.pow_add, ← Nat.pow_add, exponents]

/-- A larger count has no larger factor. -/
theorem units_perCount_antitone {smaller larger : Nat} (positive : 0 < smaller)
    (ordered : smaller ≤ larger) (fits : larger < 2 ^ 64) :
    (perCount larger).units ≤ (perCount smaller).units := by
  have smallerFits : smaller < 2 ^ 64 := Nat.lt_of_le_of_lt ordered fits
  have counts : (ofNat smaller).units ≤ (ofNat larger).units :=
    units_mono (roundCode_mono Nat.one_pos ordered)
  have smallerLarge := le_units_ofNat positive smallerFits
  rw [perCount_eq (by omega) fits, perCount_eq positive smallerFits]
  exact units_mono (roundCode_antitone _ (by omega) counts)

section Count

variable {count : Nat} (positive : 0 < count) (fits : count < 2 ^ 64)

include positive fits

theorem tight_units_ofNat : Tight (ofNat count).units (count * 2 ^ 149) := by
  have tight := tight_roundUnits (count * 2 ^ 149) Nat.one_pos (by omega)
  rwa [Nat.one_mul, ← (units_round false count Nat.one_pos (by omega)).2] at tight

/-- A count times its factor is one up to one part in `2 ^ 23`. -/
theorem mul_units_perCount_close :
    2 ^ 23 * (count * (perCount count).units) ≤ 2 ^ 23 * 2 ^ 149 + 2 ^ 149 ∧
      2 ^ 23 * 2 ^ 149 ≤ 2 ^ 23 * (count * (perCount count).units) + 2 ^ 149 := by
  have countTight := (tight_units_ofNat positive fits).mul_left (perCount count).units
  have exchange : (perCount count).units * (count * 2 ^ 149) =
      count * (perCount count).units * 2 ^ 149 := by ac_rfl
  rw [exchange, Nat.mul_comm _ (ofNat count).units] at countTight
  rcases countTight with ⟨countUpper, countLower⟩
  rcases tight_units_perCount positive fits with ⟨upper, lower⟩
  omega

/-- A count times its factor is exactly one for the powers of two. -/
theorem mul_units_perCount_eq_iff :
    count * (perCount count).units = 2 ^ 149 ↔ ∃ exponent, count = 2 ^ exponent := by
  constructor
  · intro exact
    rcases (Nat.dvd_prime_pow Nat.prime_two).mp (Dvd.intro _ exact) with ⟨exponent, _, countEq⟩
    exact ⟨exponent, countEq⟩
  · rintro ⟨exponent, rfl⟩
    have exponentLt : exponent < 64 := (Nat.pow_lt_pow_iff_right (by decide)).mp fits
    rw [units_perCount_two_pow fits, ← Nat.pow_add, Nat.add_sub_cancel' (by omega)]

theorem value_perCount : (perCount count).value = (perCount count).units / 2 ^ 149 := by
  rw [value, negative_perCount positive fits]
  rfl

theorem value_perCount_pos : 0 < (perCount count).value := by
  have large := le_units_perCount positive fits
  have unitsPos : (0 : ℚ) < (perCount count).units := Nat.cast_pos.mpr (by omega)
  rw [value_perCount positive fits]
  exact div_pos unitsPos (by norm_num)

theorem value_perCount_close : |count * (perCount count).value - 1| ≤ 1 / 2 ^ 23 := by
  rcases mul_units_perCount_close positive fits with ⟨upper, lower⟩
  have upperRat : (2 : ℚ) ^ 23 * (count * (perCount count).units) ≤
      2 ^ 23 * 2 ^ 149 + 2 ^ 149 := by exact_mod_cast upper
  have lowerRat : (2 : ℚ) ^ 23 * 2 ^ 149 ≤
      2 ^ 23 * (count * (perCount count).units) + 2 ^ 149 := by exact_mod_cast lower
  rw [value_perCount positive fits, ← mul_div_assoc, abs_le]
  constructor <;> linarith

theorem value_perCount_eq_iff :
    (perCount count).value = 1 / count ↔ ∃ exponent, count = 2 ^ exponent := by
  have countNe : (count : ℚ) ≠ 0 := Nat.cast_ne_zero.mpr positive.ne'
  rw [value_perCount positive fits, div_eq_div_iff (by norm_num) countNe, one_mul, mul_comm,
    ← mul_units_perCount_eq_iff positive fits]
  exact_mod_cast Iff.rfl

theorem perCount_inverts : (perCount count).Inverts count where
  value_pos := value_perCount_pos positive fits
  normal := by
    have large := le_units_perCount positive fits
    exact normal_of_le_units (units_perCount positive fits).1 (by omega)
  close := value_perCount_close positive fits
  exact_iff := value_perCount_eq_iff positive fits

end Count

theorem value_perCount_antitone {smaller larger : Nat} (positive : 0 < smaller)
    (ordered : smaller ≤ larger) (fits : larger < 2 ^ 64) :
    (perCount larger).value ≤ (perCount smaller).value := by
  have units := units_perCount_antitone positive ordered fits
  rw [value_perCount (by omega) fits, value_perCount positive (by omega)]
  exact div_le_div_of_nonneg_right (Nat.cast_le.mpr units) (by norm_num)

end Binary32

end IntegerPooling
