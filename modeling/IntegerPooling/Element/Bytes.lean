import IntegerPooling.Element.Basic

/-!
# Elements as bytes

An element is stored as its two's-complement bytes, least significant first. `toBytes` and
`ofBytes` are inverse to each other on the bytes of one element (`ofBytes_toBytes`,
`toBytes_ofBytes`), whatever the type's width and sign.
-/

namespace IntegerPooling

/-- The bytes of a natural number, least significant first; what exceeds the width is dropped. -/
def littleEndian : Nat → Nat → List UInt8
  | 0, _ => []
  | width + 1, value => UInt8.ofNat (value % 256) :: littleEndian width (value / 256)

/-- The natural number with the given bytes, least significant first. -/
def ofLittleEndian : List UInt8 → Nat
  | [] => 0
  | byte :: rest => byte.toNat + 256 * ofLittleEndian rest

@[simp] theorem length_littleEndian (width value : Nat) :
    (littleEndian width value).length = width := by
  induction width generalizing value with
  | zero => rfl
  | succ width ih => simp [littleEndian, ih]

theorem ofLittleEndian_littleEndian (width value : Nat) :
    ofLittleEndian (littleEndian width value) = value % 256 ^ width := by
  induction width generalizing value with
  | zero => simp [littleEndian, ofLittleEndian, Nat.mod_one]
  | succ width ih =>
    have low : (UInt8.ofNat (value % 256)).toNat = value % 256 := by simp
    rw [littleEndian, ofLittleEndian, ih, low, Nat.pow_succ, Nat.mul_comm (256 ^ width),
      Nat.mod_mul]

theorem ofLittleEndian_lt (bytes : List UInt8) : ofLittleEndian bytes < 256 ^ bytes.length := by
  induction bytes with
  | nil => simp [ofLittleEndian]
  | cons byte rest ih =>
    have := byte.toNat_lt
    simp only [ofLittleEndian, List.length_cons, Nat.pow_succ]
    omega

theorem littleEndian_ofLittleEndian (bytes : List UInt8) :
    littleEndian bytes.length (ofLittleEndian bytes) = bytes := by
  induction bytes with
  | nil => rfl
  | cons byte rest ih =>
    have below := byte.toNat_lt
    have low : (byte.toNat + 256 * ofLittleEndian rest) % 256 = byte.toNat := by omega
    have high : (byte.toNat + 256 * ofLittleEndian rest) / 256 = ofLittleEndian rest := by omega
    simp [littleEndian, ofLittleEndian, low, high, ih]

namespace Element

variable {t : ElementType}

def toBytes (element : Element t) : List UInt8 :=
  littleEndian t.size (element.val % (t.modulus : Int)).toNat

def ofBytes (t : ElementType) (bytes : List UInt8) : Element t :=
  wrap t (ofLittleEndian bytes)

@[simp] theorem length_toBytes (element : Element t) : element.toBytes.length = t.size :=
  length_littleEndian _ _

@[simp] theorem ofBytes_toBytes (element : Element t) : ofBytes t element.toBytes = element := by
  have positive := t.modulus_pos
  have nonneg := Int.emod_nonneg element.val (by omega : (t.modulus : Int) ≠ 0)
  have below := Int.emod_lt_of_pos element.val (by omega : (0 : Int) < t.modulus)
  have fits : (element.val % (t.modulus : Int)).toNat < 256 ^ t.size := by
    change _ < t.modulus
    omega
  apply ext_val
  rw [ofBytes, toBytes, ofLittleEndian_littleEndian, Nat.mod_eq_of_lt fits,
    Int.toNat_of_nonneg nonneg]
  have same : (element.val % (t.modulus : Int) - t.lowest) % (t.modulus : Int) =
      (element.val - t.lowest) % (t.modulus : Int) := by simp [Int.sub_emod]
  have := congrArg Element.val (wrap_val element)
  simpa only [wrap, same] using this

theorem toBytes_ofBytes {bytes : List UInt8} (width : bytes.length = t.size) :
    (ofBytes t bytes).toBytes = bytes := by
  have bound := ofLittleEndian_lt bytes
  rw [width] at bound
  change _ < t.modulus at bound
  have residue : ((wrap t (ofLittleEndian bytes)).val % (t.modulus : Int)).toNat =
      ofLittleEndian bytes := by
    simp only [wrap]
    rw [Int.add_emod, Int.emod_emod, ← Int.add_emod,
      show t.lowest + ((ofLittleEndian bytes : Int) - t.lowest) = ofLittleEndian bytes by omega,
      Int.emod_eq_of_lt (by omega) (by omega)]
    omega
  rw [toBytes, ofBytes, residue, ← width, littleEndian_ofLittleEndian]

end Element

end IntegerPooling
