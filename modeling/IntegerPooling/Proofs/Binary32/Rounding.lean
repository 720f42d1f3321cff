import IntegerPooling.Binary32.Basic
import Mathlib.Tactic.Ring

/-!
# Rounding errors

A quotient is rounded to the nearest multiple of a quantum that leaves it 24 significant bits
(`roundUnits`). In the normal range that moves it by at most one part in `2 ^ 24 + 1`
(`tight_roundUnits`); mostly one part in `2 ^ 24` is close enough (`near_roundUnits`). A quotient
that has no more than 24 significant bits is not moved at all (`roundUnits_eq`). The units of a
rounded number are those of `roundUnits` whenever the quotient is well below the last finite number
(`units_round`).
-/

namespace IntegerPooling

namespace Binary32

/-- The numerator of the quantum of a quotient, over the denominator of the quotient. -/
def quantum (scaled denominator : Nat) : Nat :=
  denominator * 2 ^ doublings scaled denominator

/-- A quotient of units, rounded to a multiple of its quantum. -/
def roundUnits (scaled denominator : Nat) : Nat :=
  nearestEven scaled (quantum scaled denominator) * 2 ^ doublings scaled denominator

/-- Whether a number differs from another by at most one part in `2 ^ 24` of the other. -/
def Near (approximation exact : Nat) : Prop :=
  2 ^ 24 * approximation ≤ 2 ^ 24 * exact + exact ∧
    2 ^ 24 * exact ≤ 2 ^ 24 * approximation + exact

/-- Whether a number differs from another by at most one part in `2 ^ 24 + 1` of the other. -/
def Tight (approximation exact : Nat) : Prop :=
  (2 ^ 24 + 1) * approximation ≤ (2 ^ 24 + 2) * exact ∧
    2 ^ 24 * exact ≤ (2 ^ 24 + 1) * approximation

/-- Whether a number is neither infinite nor no number at all. -/
def Finite (number : Binary32) : Prop :=
  number.magnitude < infinityCode

theorem Near.mul_left {approximation exact : Nat} (near : Near approximation exact)
    (factor : Nat) : Near (factor * approximation) (factor * exact) := by
  have upper := Nat.mul_le_mul_left factor near.1
  have lower := Nat.mul_le_mul_left factor near.2
  simp only [Nat.mul_add, Nat.mul_left_comm factor (2 ^ 24)] at upper lower
  exact ⟨upper, lower⟩

theorem Near.of_mul_left {approximation exact factor : Nat} (positive : 0 < factor)
    (near : Near (factor * approximation) (factor * exact)) : Near approximation exact := by
  rcases near with ⟨upper, lower⟩
  simp only [Nat.mul_left_comm (2 ^ 24) factor, ← Nat.mul_add] at upper lower
  exact ⟨Nat.le_of_mul_le_mul_left upper positive, Nat.le_of_mul_le_mul_left lower positive⟩

theorem Tight.near {approximation exact : Nat} (tight : Tight approximation exact) :
    Near approximation exact := by
  rcases tight with ⟨upper, lower⟩
  constructor <;> omega

theorem Tight.mul_left {approximation exact : Nat} (tight : Tight approximation exact)
    (factor : Nat) : Tight (factor * approximation) (factor * exact) := by
  have upper := Nat.mul_le_mul_left factor tight.1
  have lower := Nat.mul_le_mul_left factor tight.2
  simp only [Nat.mul_left_comm factor] at upper lower
  exact ⟨upper, lower⟩

section Quantum

variable (scaled : Nat) {denominator : Nat}

theorem quantum_pos (positive : 0 < denominator) : 0 < quantum scaled denominator :=
  Nat.mul_pos positive (Nat.two_pow_pos _)

theorem lt_quantum_mul (positive : 0 < denominator) :
    scaled < quantum scaled denominator * 2 ^ 24 := by
  have exponentLe : Nat.log2 (scaled / denominator) + 1 ≤ doublings scaled denominator + 24 := by
    rw [doublings]
    omega
  have quotientLt : scaled / denominator < 2 ^ (doublings scaled denominator + 24) :=
    Nat.lt_of_lt_of_le Nat.lt_log2_self (Nat.pow_le_pow_right (by decide) exponentLe)
  rw [quantum, Nat.mul_assoc, ← Nat.pow_add, Nat.mul_comm]
  exact (Nat.div_lt_iff_lt_mul positive).mp quotientLt

theorem quantum_mul_le (positive : 0 < denominator) (doubled : doublings scaled denominator ≠ 0) :
    quantum scaled denominator * 2 ^ 23 ≤ scaled := by
  have exponentEq : doublings scaled denominator + 23 = Nat.log2 (scaled / denominator) := by
    rw [doublings] at doubled ⊢
    omega
  have nonzero : scaled / denominator ≠ 0 := by
    intro zero
    rw [doublings, zero] at doubled
    exact doubled rfl
  have leQuotient : 2 ^ (doublings scaled denominator + 23) ≤ scaled / denominator := by
    rw [exponentEq]
    exact Nat.log2_self_le nonzero
  rw [quantum, Nat.mul_assoc, ← Nat.pow_add, Nat.mul_comm]
  exact (Nat.le_div_iff_mul_le positive).mp leQuotient

theorem significand_le (positive : 0 < denominator) :
    nearestEven scaled (quantum scaled denominator) ≤ 2 ^ 24 := by
  have rounded := nearestEven_mono (quantum scaled denominator)
    (Nat.le_of_lt (lt_quantum_mul scaled positive))
  rwa [nearestEven_mul_left (quantum_pos scaled positive)] at rounded

theorem le_significand (positive : 0 < denominator)
    (doubled : doublings scaled denominator ≠ 0) :
    2 ^ 23 ≤ nearestEven scaled (quantum scaled denominator) := by
  have rounded := nearestEven_mono (quantum scaled denominator)
    (quantum_mul_le scaled positive doubled)
  rwa [nearestEven_mul_left (quantum_pos scaled positive)] at rounded

theorem denominator_mul_roundUnits (denominator : Nat) :
    denominator * roundUnits scaled denominator =
      quantum scaled denominator * nearestEven scaled (quantum scaled denominator) := by
  rw [roundUnits, quantum, Nat.mul_comm (nearestEven _ _), Nat.mul_assoc]

/-- A quotient of at least `2 ^ 23` quanta is rounded by at most one part in `2 ^ 24 + 1`. -/
theorem tight_of_quantum_mul_le (positive : 0 < denominator)
    (full : quantum scaled denominator * 2 ^ 23 ≤ scaled) :
    Tight (denominator * roundUnits scaled denominator) scaled := by
  have error := @nearestEven_error scaled _ (quantum_pos scaled positive)
  have leSignificand := nearestEven_mono (quantum scaled denominator) full
  rw [nearestEven_mul_left (quantum_pos scaled positive)] at leSignificand
  rw [denominator_mul_roundUnits, Tight]
  generalize nearestEven scaled (quantum scaled denominator) = significand at *
  -- The least significand is only reached from above, and the next one is a whole quantum away.
  rcases Nat.eq_or_lt_of_le leSignificand with least | larger
  · rw [← least] at error ⊢
    omega
  · have := Nat.mul_le_mul_left (quantum scaled denominator) (Nat.succ_le_of_lt larger)
    omega

/-- Rounding a quotient in the normal range moves it by at most one part in `2 ^ 24 + 1`. -/
theorem tight_roundUnits (positive : 0 < denominator) (normal : denominator * 2 ^ 23 ≤ scaled) :
    Tight (denominator * roundUnits scaled denominator) scaled := by
  apply tight_of_quantum_mul_le scaled positive
  by_cases doubled : doublings scaled denominator = 0
  · rwa [quantum, doubled, Nat.pow_zero, Nat.mul_one]
  · exact quantum_mul_le scaled positive doubled

/-- Rounding a quotient in the normal range moves it by at most one part in `2 ^ 24`, and whole
units are not rounded below the normal range. -/
theorem near_roundUnits (positive : 0 < denominator)
    (normal : denominator ∣ scaled ∨ denominator * 2 ^ 23 ≤ scaled) :
    Near (denominator * roundUnits scaled denominator) scaled := by
  by_cases doubled : doublings scaled denominator = 0
  · rcases normal with ⟨whole, rfl⟩ | large
    · have exact : denominator * roundUnits (denominator * whole) denominator =
          denominator * whole := by
        rw [roundUnits, quantum, doubled, Nat.pow_zero, Nat.mul_one, Nat.mul_one,
          nearestEven_mul_left positive]
      rw [exact, Near]
      omega
    · exact (tight_roundUnits scaled positive large).near
  · exact (tight_of_quantum_mul_le scaled positive
      (quantum_mul_le scaled positive doubled)).near

/-- A number of units with at most 24 significant bits stays what it is. -/
theorem roundUnits_eq {significand shift : Nat} (positive : 0 < denominator)
    (short : significand < 2 ^ 24) (scaledEq : scaled = denominator * (significand * 2 ^ shift)) :
    roundUnits scaled denominator = significand * 2 ^ shift := by
  have quotientEq : scaled / denominator = significand * 2 ^ shift := by
    rw [scaledEq, Nat.mul_div_cancel_left _ positive]
  have divides : 2 ^ doublings scaled denominator ∣ significand * 2 ^ shift := by
    by_cases zero : significand = 0
    · rw [zero, Nat.zero_mul]
      exact Nat.dvd_zero _
    · have below : significand * 2 ^ shift < 2 ^ (24 + shift) := by
        rw [Nat.pow_add]
        exact Nat.mul_lt_mul_of_pos_right short (Nat.two_pow_pos _)
      have exponentLt := (Nat.log2_lt (Nat.mul_ne_zero zero (Nat.two_pow_pos _).ne')).mpr below
      have shiftLe : doublings scaled denominator ≤ shift := by
        rw [doublings, quotientEq]
        omega
      exact Nat.dvd_mul_left_of_dvd (Nat.pow_dvd_pow 2 shiftLe) significand
  rcases divides with ⟨multiple, multipleEq⟩
  have scaledQuantum : scaled = quantum scaled denominator * multiple := by
    rw [quantum, Nat.mul_assoc, ← multipleEq]
    exact scaledEq
  have rounded : nearestEven scaled (quantum scaled denominator) = multiple := by
    have exact := nearestEven_mul_left (quantum_pos scaled positive) multiple
    rwa [← scaledQuantum] at exact
  rw [roundUnits, rounded, multipleEq, Nat.mul_comm]

end Quantum

/-- A code that is a significand on top of whole binades stands for the doubled significand. -/
theorem units_eq {number : Binary32} {shift significand : Nat}
    (code : number.magnitude = shift * 2 ^ 23 + significand) (upper : significand ≤ 2 ^ 24)
    (normal : shift = 0 ∨ 2 ^ 23 ≤ significand) : number.units = significand * 2 ^ shift := by
  rw [units, code]
  by_cases subnormal : significand < 2 ^ 23
  · have shiftEq : shift = 0 := by omega
    subst shiftEq
    rw [if_pos (by omega)]
    omega
  · rw [if_neg (by omega)]
    by_cases carries : significand = 2 ^ 24
    · -- The code is the first one of the next binade.
      have low : (shift * 2 ^ 23 + significand) % 2 ^ 23 = 0 := by omega
      have high : (shift * 2 ^ 23 + significand) / 2 ^ 23 - 1 = shift + 1 := by omega
      rw [low, high, carries, Nat.pow_succ]
      omega
    · have low : (shift * 2 ^ 23 + significand) % 2 ^ 23 = significand - 2 ^ 23 := by omega
      have high : (shift * 2 ^ 23 + significand) / 2 ^ 23 - 1 = shift := by omega
      rw [low, high, Nat.add_sub_cancel' (by omega)]

theorem doublings_le {numerator denominator : Nat} (positive : 0 < denominator)
    (small : numerator < 2 ^ 64 * denominator) :
    doublings (numerator * 2 ^ 149) denominator ≤ 189 := by
  by_cases doubled : doublings (numerator * 2 ^ 149) denominator = 0
  · omega
  · have powers : 2 ^ (doublings (numerator * 2 ^ 149) denominator + 23) < 2 ^ (64 + 149) := by
      apply Nat.lt_of_mul_lt_mul_left (a := denominator)
      calc denominator * 2 ^ (doublings (numerator * 2 ^ 149) denominator + 23)
          = quantum (numerator * 2 ^ 149) denominator * 2 ^ 23 := by
            rw [Nat.pow_add, ← Nat.mul_assoc, quantum]
        _ ≤ numerator * 2 ^ 149 := quantum_mul_le _ positive doubled
        _ < 2 ^ 64 * denominator * 2 ^ 149 :=
            Nat.mul_lt_mul_of_pos_right small (Nat.two_pow_pos _)
        _ = denominator * 2 ^ (64 + 149) := by
            rw [Nat.pow_add, Nat.mul_comm (2 ^ 64), Nat.mul_assoc]
    have exponents := (Nat.pow_lt_pow_iff_right (by decide)).mp powers
    omega

/-- A quotient below `2 ^ 64` is far from infinity, and its units are the rounded ones. -/
theorem units_round (negative : Bool) (numerator : Nat) {denominator : Nat}
    (positive : 0 < denominator) (small : numerator < 2 ^ 64 * denominator) :
    (round negative numerator denominator).Finite ∧
      (round negative numerator denominator).units =
        roundUnits (numerator * 2 ^ 149) denominator := by
  have upper := significand_le (numerator * 2 ^ 149) positive
  have shiftLe := doublings_le positive small
  have code : (round negative numerator denominator).magnitude =
      doublings (numerator * 2 ^ 149) denominator * 2 ^ 23 +
        nearestEven (numerator * 2 ^ 149) (quantum (numerator * 2 ^ 149) denominator) := by
    apply Nat.min_eq_right
    change _ * 2 ^ 23 + nearestEven _ (quantum _ _) ≤ _
    rw [infinityCode]
    omega
  constructor
  · rw [Finite, code, infinityCode]
    omega
  · apply units_eq code upper
    by_cases doubled : doublings (numerator * 2 ^ 149) denominator = 0
    · exact Or.inl doubled
    · exact Or.inr (le_significand _ positive doubled)

end Binary32

end IntegerPooling
