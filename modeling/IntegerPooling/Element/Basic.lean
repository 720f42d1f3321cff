import IntegerPooling.Element.DataType

/-!
# Elements

An `Element t` is an integer between the bounds of `t`. Two ways lead from the integers into a
type: `clamp` goes to the nearest bound, `wrap` keeps the value modulo the size of the type. The
32-bit accumulator of an average is an `Element .s32` whose sums wrap.
-/

namespace IntegerPooling

structure Element (t : ElementType) where
  val : Int
  lowest_le : t.lowest ≤ val
  le_highest : val ≤ t.highest
deriving DecidableEq, Repr

namespace Element

variable {t : ElementType}

theorem ext_val {left right : Element t} (sameValue : left.val = right.val) : left = right := by
  cases left
  cases right
  cases sameValue
  rfl

/-- The least element; no element is below it, so it is neutral for `max`. -/
def lowest (t : ElementType) : Element t :=
  ⟨t.lowest, Int.le_refl _, t.lowest_le_highest⟩

/-- The nearest element to an integer. -/
def clamp (t : ElementType) (value : Int) : Element t :=
  ⟨max t.lowest (min value t.highest), by have := t.lowest_le_highest; omega, by
    have := t.lowest_le_highest; omega⟩

/-- The element that differs from an integer by a multiple of the size of the type. -/
def wrap (t : ElementType) (value : Int) : Element t :=
  ⟨t.lowest + (value - t.lowest) % (t.modulus : Int), by
    have positive := t.modulus_pos
    have := Int.emod_nonneg (value - t.lowest) (by omega : (t.modulus : Int) ≠ 0)
    omega, by
    have positive := t.modulus_pos
    have below := Int.emod_lt_of_pos (value - t.lowest) (by omega : (0 : Int) < t.modulus)
    have := t.lowest_add_modulus
    omega⟩

def max (left right : Element t) : Element t :=
  if left.val ≤ right.val then right else left

/-- Every element is also a 32-bit integer, signed types keeping their sign. -/
def widen (element : Element t) : Element .s32 :=
  ⟨element.val, by
    have := element.lowest_le
    cases t <;> simp_all [ElementType.lowest] <;> omega, by
    have := element.le_highest
    cases t <;> simp_all [ElementType.highest] <;> omega⟩

def saturate (t : ElementType) (accumulator : Element .s32) : Element t :=
  clamp t accumulator.val

def zero : Element .s32 :=
  ⟨0, by decide, by decide⟩

/-- A 32-bit sum with one more term; it wraps when it leaves the 32-bit range. -/
def addWrapping (sum : Element .s32) (term : Element t) : Element .s32 :=
  wrap .s32 (sum.val + term.val)

@[simp] theorem val_zero : zero.val = 0 := rfl

theorem val_max (left right : Element t) : (left.max right).val = Max.max left.val right.val := by
  unfold max
  split <;> omega

theorem val_clamp_of_bounds {value : Int} (lower : t.lowest ≤ value) (upper : value ≤ t.highest) :
    (clamp t value).val = value := by
  simp only [clamp]
  omega

@[simp] theorem clamp_val (element : Element t) : clamp t element.val = element :=
  ext_val (val_clamp_of_bounds element.lowest_le element.le_highest)

theorem val_clamp_mono {left right : Int} (ordered : left ≤ right) :
    (clamp t left).val ≤ (clamp t right).val := by
  simp only [clamp]
  omega

theorem val_wrap_of_bounds {value : Int} (lower : t.lowest ≤ value) (upper : value ≤ t.highest) :
    (wrap t value).val = value := by
  have := t.lowest_add_modulus
  simp only [wrap]
  rw [Int.emod_eq_of_lt (by omega) (by omega)]
  omega

@[simp] theorem wrap_val (element : Element t) : wrap t element.val = element :=
  ext_val (val_wrap_of_bounds element.lowest_le element.le_highest)

end Element

end IntegerPooling
