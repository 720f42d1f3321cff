import IntegerPooling.Size

/-!
# Decimal numerals

A numeral is an optional plus sign followed by at least one ASCII digit, and has to name a number
that a machine word can carry. Leading zeros are free. It is read from its first digit to its
last in sizes of a machine word, so reading ends at the first digit whose step does not fit.
-/

namespace IntegerPooling

namespace Numeral

def digitValue (digit : Char) : Nat :=
  digit.toNat - '0'.toNat

def unsigned : List Char → List Char
  | '+' :: rest => rest
  | text => text

/-- The number of the digits read so far with one more digit. -/
def extend (number : Nat) (digit : Char) : Except Fault Nat := do
  Size.add (← Size.mul number 10) (digitValue digit)

def extend? (number : Nat) (digit : Char) : Option Nat :=
  if digit.isDigit then (extend number digit).toOption else none

def parse? (text : List Char) : Option Nat :=
  match unsigned text with
  | [] => none
  | digits => digits.foldlM extend? 0

end Numeral

end IntegerPooling
