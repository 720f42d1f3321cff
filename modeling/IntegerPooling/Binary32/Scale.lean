import IntegerPooling.Binary32.Basic
import IntegerPooling.Element.Basic

/-!
# Scaling a sum by a reciprocal

An average multiplies the 32-bit sum of its window by the reciprocal of its divisor and rounds the
product to a 32-bit integer. The sum and the divisor are brought into `Binary32` first, so there
are four roundings on the way: of the sum, the divisor, its reciprocal and the product.
-/

namespace IntegerPooling

namespace Binary32

/-- The integer nearest to a number, for infinity one beyond every 32-bit integer. -/
def nearestInt (number : Binary32) : Int :=
  if number.negative then -(nearestEven number.units (2 ^ 149) : Int)
  else nearestEven number.units (2 ^ 149)

/-- The 32-bit integer nearest to a number; no number at all gives zero. -/
def toElement (number : Binary32) : Element .s32 :=
  if number.isNaN then Element.zero else Element.clamp .s32 number.nearestInt

def scale (sum : Element .s32) (factor : Binary32) : Element .s32 :=
  (mul (ofInt sum.val) factor).toElement

/-- The factor that divides by a count. -/
def perCount (count : Nat) : Binary32 :=
  (ofNat count).reciprocal

end Binary32

end IntegerPooling
