import IntegerPooling.Binary32.Nearest
import IntegerPooling.Power

/-!
# Binary floating point in 32 bits

A `Binary32` is a sign and a magnitude code, the low 31 bits of its encoding. Codes are ordered
like the values they stand for, so an order between results is an order between natural numbers.
A finite code stands for a whole number of `units` of `2 ^ -149`, the least positive value.

All arithmetic is exact first and then rounded once by `round`, to nearest with ties to even. A
code that carries out of its binade is the first code of the next one, and what lies beyond the
last finite code is the code of infinity, so `round` needs no case for either.
-/

namespace IntegerPooling

/-- A number in the 32-bit binary format, as its sign and its magnitude code. -/
structure Binary32 where
  negative : Bool
  magnitude : Nat
  magnitude_lt : magnitude < 2 ^ 31
deriving DecidableEq, Repr

namespace Binary32

/-- The code of infinity; smaller codes are finite and larger ones are not numbers. -/
def infinityCode : Nat :=
  255 * 2 ^ 23

def ofBits (bits : UInt32) : Binary32 :=
  ⟨decide (2 ^ 31 ≤ bits.toNat), bits.toNat % 2 ^ 31, Nat.mod_lt _ (by decide)⟩

def toBits (number : Binary32) : UInt32 :=
  UInt32.ofNat (number.magnitude + if number.negative then 2 ^ 31 else 0)

def isNaN (number : Binary32) : Bool :=
  decide (infinityCode < number.magnitude)

def isInfinite (number : Binary32) : Bool :=
  decide (number.magnitude = infinityCode)

def isZero (number : Binary32) : Bool :=
  decide (number.magnitude = 0)

/-- The size of a finite number in units of `2 ^ -149`. Below `2 ^ 23` a code counts units itself;
above, its low 23 bits complete a significand that each further binade doubles. -/
def units (number : Binary32) : Nat :=
  if number.magnitude < 2 ^ 23 then number.magnitude
  else (2 ^ 23 + number.magnitude % 2 ^ 23) * 2 ^ (number.magnitude / 2 ^ 23 - 1)

def notANumber : Binary32 :=
  ⟨false, infinityCode + 2 ^ 22, by decide⟩

def infinity (negative : Bool) : Binary32 :=
  ⟨negative, infinityCode, by decide⟩

def zero (negative : Bool) : Binary32 :=
  ⟨negative, 0, by decide⟩

/-- How often the quantum of a quotient is a doubled unit: as often as leaves 24 significant
bits, and never for a quotient that has no more. -/
def doublings (scaled denominator : Nat) : Nat :=
  Nat.log2 (scaled / denominator) - 23

/-- The code nearest to a quotient. -/
def roundCode (numerator denominator : Nat) : Nat :=
  let scaled := numerator * 2 ^ 149
  let shift := doublings scaled denominator
  min infinityCode (shift * 2 ^ 23 + nearestEven scaled (denominator * 2 ^ shift))

theorem roundCode_le (numerator denominator : Nat) :
    roundCode numerator denominator ≤ infinityCode :=
  Nat.min_le_left _ _

/-- The number nearest to a quotient, with the given sign. -/
def round (negative : Bool) (numerator denominator : Nat) : Binary32 :=
  ⟨negative, roundCode numerator denominator,
    Nat.lt_of_le_of_lt (roundCode_le numerator denominator) (by decide)⟩

def ofNat (value : Nat) : Binary32 :=
  round false value 1

def ofInt (value : Int) : Binary32 :=
  round (decide (value < 0)) value.natAbs 1

def mul (left right : Binary32) : Binary32 :=
  let negative := left.negative != right.negative
  if left.isNaN || right.isNaN then notANumber
  else if left.isInfinite || right.isInfinite then
    if left.isZero || right.isZero then notANumber else infinity negative
  else round negative (left.units * right.units) (2 ^ 298)

def reciprocal (number : Binary32) : Binary32 :=
  if number.isNaN then notANumber
  else if number.isInfinite then zero number.negative
  else if number.isZero then infinity number.negative
  else round number.negative (2 ^ 149) number.units

@[simp] theorem isNaN_round (negative : Bool) (numerator denominator : Nat) :
    (round negative numerator denominator).isNaN = false := by
  exact decide_eq_false (Nat.not_lt.mpr (roundCode_le numerator denominator))

@[simp] theorem toBits_ofBits (bits : UInt32) : (ofBits bits).toBits = bits := by
  have below := bits.toNat_lt
  have whole : bits.toNat % 2 ^ 31 + (if decide (2 ^ 31 ≤ bits.toNat) = true then 2 ^ 31 else 0) =
      bits.toNat := by
    by_cases high : 2 ^ 31 ≤ bits.toNat
    · simp only [high, decide_true, if_true]
      omega
    · simp only [high, decide_false, Bool.false_eq_true, if_false]
      omega
  rw [toBits, ofBits, whole, UInt32.ofNat_toNat]

@[simp] theorem ofBits_toBits (number : Binary32) : ofBits number.toBits = number := by
  obtain ⟨negative, magnitude, below⟩ := number
  have whole : (toBits ⟨negative, magnitude, below⟩).toNat =
      magnitude + if negative then 2 ^ 31 else 0 := by
    rw [toBits, UInt32.toNat_ofNat']
    apply Nat.mod_eq_of_lt
    simp only
    split <;> omega
  have sign : decide (2 ^ 31 ≤ magnitude + if negative then 2 ^ 31 else 0) = negative := by
    cases negative with
    | false => exact decide_eq_false (by simpa using below)
    | true => exact decide_eq_true (Nat.le_add_left _ _)
  have code : (magnitude + if negative then 2 ^ 31 else 0) % 2 ^ 31 = magnitude := by
    split <;> omega
  simp only [ofBits, whole, sign, code]

end Binary32

end IntegerPooling
