import IntegerPooling.Failure

/-!
# Sizes of a machine word

Sizes are natural numbers, and a sum or a product that 64 bits cannot carry is a fault. Each
operation succeeds with the exact result or not at all (`add_eq_ok_iff`, `mul_eq_ok_iff`), so
that a computation on sizes never continues with a wrapped value.
-/

namespace IntegerPooling

namespace Size

/-- The number of values of a machine word. -/
def limit : Nat :=
  2 ^ 64

def add (left right : Nat) : Except Fault Nat :=
  if left + right < limit then .ok (left + right) else .error (.overflow .add)

def mul (left right : Nat) : Except Fault Nat :=
  if left * right < limit then .ok (left * right) else .error (.overflow .multiply)

theorem add_eq_ok_iff {left right sum : Nat} :
    add left right = .ok sum ↔ left + right = sum ∧ sum < limit := by
  unfold add
  split <;> simp <;> omega

theorem mul_eq_ok_iff {left right product : Nat} :
    mul left right = .ok product ↔ left * right = product ∧ product < limit := by
  unfold mul
  split <;> simp <;> omega

theorem add_of_lt {left right : Nat} (fits : left + right < limit) :
    add left right = .ok (left + right) :=
  if_pos fits

theorem mul_of_lt {left right : Nat} (fits : left * right < limit) :
    mul left right = .ok (left * right) :=
  if_pos fits

theorem add_of_le {left right : Nat} (large : limit ≤ left + right) :
    add left right = .error (.overflow .add) :=
  if_neg (by omega)

theorem mul_of_le {left right : Nat} (large : limit ≤ left * right) :
    mul left right = .error (.overflow .multiply) :=
  if_neg (by omega)

theorem mul_comm (left right : Nat) : mul left right = mul right left := by
  rw [mul, mul, Nat.mul_comm]

/-- The signed number with the bits of a machine word, negative from half of `limit` on. -/
def signed (size : Nat) : Int :=
  Int.bmod size limit

def signedSub (left right : Int) : Except Fault Int :=
  if -(2 ^ 63 : Int) ≤ left - right ∧ left - right < 2 ^ 63 then .ok (left - right)
  else .error (.overflow .subtract)

theorem signed_of_lt {size : Nat} (small : size < 2 ^ 63) : signed size = size := by
  unfold signed limit
  rw [Int.bmod_eq_of_le] <;> omega

end Size

end IntegerPooling
