import IntegerPooling.Power

/-!
# Data types of tensors

`DataType` is the full set of types a tensor layout can carry; `ElementType` is the part of it
that pooling reads and writes. The bounds of an element type are stated once here, and every
range, size and wrap-around rule of the library is derived from them.
-/

namespace IntegerPooling

/-- The types of tensor elements, poolable or not. -/
inductive DataType where
  | f32
  | s32
  | s16
  | s8
  | u8
deriving DecidableEq, Repr

/-- The integer types that pooling works on. -/
inductive ElementType where
  | s8
  | u8
  | s32
deriving DecidableEq, Repr

namespace DataType

def size : DataType → Nat
  | f32 => 4
  | s32 => 4
  | s16 => 2
  | s8 => 1
  | u8 => 1

def name : DataType → String
  | f32 => "f32"
  | s32 => "s32"
  | s16 => "s16"
  | s8 => "s8"
  | u8 => "u8"

/-- The capitalised tag of a type, as faults show it. -/
def tag : DataType → String
  | f32 => "F32"
  | s32 => "S32"
  | s16 => "S16"
  | s8 => "S8"
  | u8 => "U8"

def elementType? : DataType → Option ElementType
  | f32 => none
  | s32 => some .s32
  | s16 => none
  | s8 => some .s8
  | u8 => some .u8

def isPoolable (dataType : DataType) : Bool :=
  dataType.elementType?.isSome

end DataType

namespace ElementType

def dataType : ElementType → DataType
  | s8 => .s8
  | u8 => .u8
  | s32 => .s32

def lowest : ElementType → Int
  | s8 => -128
  | u8 => 0
  | s32 => -2147483648

def highest : ElementType → Int
  | s8 => 127
  | u8 => 255
  | s32 => 2147483647

def size (elementType : ElementType) : Nat :=
  elementType.dataType.size

/-- How many values the type has; arithmetic that wraps does so modulo this number. -/
def modulus (elementType : ElementType) : Nat :=
  256 ^ elementType.size

theorem lowest_le_highest (elementType : ElementType) :
    elementType.lowest ≤ elementType.highest := by
  cases elementType <;> decide

/-- The values run from `lowest` to `highest` without a gap. -/
theorem lowest_add_modulus (elementType : ElementType) :
    elementType.lowest + elementType.modulus = elementType.highest + 1 := by
  cases elementType <;> decide

theorem modulus_pos (elementType : ElementType) : 0 < elementType.modulus := by
  cases elementType <;> decide

theorem size_pos (elementType : ElementType) : 0 < elementType.size := by
  cases elementType <;> decide

end ElementType

end IntegerPooling
