import IntegerPooling.Proofs.Outcome
import IntegerPooling.Text.Numeral
import Mathlib.Data.Nat.Digits.Defs

/-!
# What numerals name

A text denotes a number when it is an optional plus sign and a run of digits with the value of the
number in base ten (`Denotes`); there is no bound on its length. Reading in machine words finds
exactly the numbers below `Size.limit` (`parse?_eq_some_iff`): the value of the digits read so far
is never above that of all digits, so a step that leaves a machine word cannot be made good later.
-/

namespace IntegerPooling

namespace Numeral

/-- The number that digits name when they follow digits of another number. -/
def valueAfter (number : Nat) (digits : List Char) : Nat :=
  digits.foldl (fun value digit => 10 * value + digitValue digit) number

/-- Whether a text is a decimal numeral of a number, however large. -/
inductive Denotes : List Char → Nat → Prop where
  | plain {digits : List Char} (nonempty : digits ≠ [])
      (decimal : ∀ digit ∈ digits, '0' ≤ digit ∧ digit ≤ '9') :
      Denotes digits (Nat.ofDigits 10 (digits.map digitValue).reverse)
  | signed {digits : List Char} (nonempty : digits ≠ [])
      (decimal : ∀ digit ∈ digits, '0' ≤ digit ∧ digit ≤ '9') :
      Denotes ('+' :: digits) (Nat.ofDigits 10 (digits.map digitValue).reverse)

theorem isDigit_iff {character : Char} :
    character.isDigit = true ↔ '0' ≤ character ∧ character ≤ '9' := by
  simp [Char.isDigit, Char.le_def]

theorem valueAfter_zero (digits : List Char) :
    valueAfter 0 digits = Nat.ofDigits 10 (digits.map digitValue).reverse := by
  rw [Nat.ofDigits_eq_foldr, List.foldr_reverse, List.foldl_map, valueAfter]
  simp [Nat.add_comm]

/-- More digits never make a number smaller. -/
theorem le_valueAfter (number : Nat) (digits : List Char) : number ≤ valueAfter number digits := by
  induction digits generalizing number with
  | nil => exact Nat.le_refl number
  | cons digit rest ih =>
    have longer := ih (10 * number + digitValue digit)
    simp only [valueAfter, List.foldl_cons] at longer ⊢
    omega

theorem extend?_eq_some_iff {number result : Nat} {digit : Char} :
    extend? number digit = some result ↔
      digit.isDigit = true ∧ 10 * number + digitValue digit = result ∧ result < Size.limit := by
  unfold extend?
  split
  · rename_i isDigit
    rw [Outcome.toOption_eq_some_iff]
    simp only [extend, Outcome.bind_eq_ok_iff, Size.mul_eq_ok_iff, Size.add_eq_ok_iff]
    constructor
    · rintro ⟨_, ⟨rfl, _⟩, rfl, fits⟩
      exact ⟨isDigit, by omega, fits⟩
    · rintro ⟨_, rfl, fits⟩
      exact ⟨_, ⟨rfl, by omega⟩, by omega, fits⟩
  · rename_i notDigit
    simp [notDigit]

/-- Reading the digits one after another gives their value if it fits. -/
theorem foldlM_extend?_eq_some_iff {digits : List Char} {number result : Nat}
    (fits : number < Size.limit) :
    digits.foldlM extend? number = some result ↔
      (∀ digit ∈ digits, digit.isDigit = true) ∧ valueAfter number digits = result ∧
        result < Size.limit := by
  induction digits generalizing number with
  | nil =>
    rw [List.foldlM_nil]
    constructor
    · rintro ⟨rfl⟩
      exact ⟨List.forall_mem_nil _, rfl, fits⟩
    · rintro ⟨_, rfl, _⟩
      rfl
  | cons digit rest ih =>
    simp only [List.foldlM_cons, Option.bind_eq_bind, Option.bind_eq_some_iff,
      extend?_eq_some_iff, List.forall_mem_cons]
    constructor
    · rintro ⟨next, ⟨isDigit, rfl, nextFits⟩, read⟩
      rcases (ih nextFits).mp read with ⟨areDigits, sameValue, resultFits⟩
      exact ⟨⟨isDigit, areDigits⟩, sameValue, resultFits⟩
    · rintro ⟨⟨isDigit, areDigits⟩, sameValue, resultFits⟩
      have nextLe := le_valueAfter (10 * number + digitValue digit) rest
      have nextFits : 10 * number + digitValue digit < Size.limit :=
        Nat.lt_of_le_of_lt nextLe (sameValue ▸ resultFits)
      exact ⟨_, ⟨isDigit, rfl, nextFits⟩, (ih nextFits).mpr ⟨areDigits, sameValue, resultFits⟩⟩

theorem unsigned_eq_or (text : List Char) :
    unsigned text = text ∨ '+' :: unsigned text = text := by
  unfold unsigned
  split
  · exact .inr rfl
  · exact .inl rfl

/-- A numeral is a sign that is no digit and the digits that are left without it. -/
theorem denotes_iff {text : List Char} {number : Nat} :
    Denotes text number ↔
      unsigned text ≠ [] ∧ (∀ digit ∈ unsigned text, digit.isDigit = true) ∧
        valueAfter 0 (unsigned text) = number := by
  simp only [isDigit_iff, valueAfter_zero]
  constructor
  · intro denotes
    cases denotes with
    | plain nonempty decimal =>
      have unsignedEq : unsigned text = text := by
        unfold unsigned
        split
        · exact absurd (decimal '+' List.mem_cons_self) (by decide)
        · rfl
      rw [unsignedEq]
      exact ⟨nonempty, decimal, rfl⟩
    | signed nonempty decimal => exact ⟨nonempty, decimal, rfl⟩
  · rintro ⟨nonempty, decimal, rfl⟩
    rcases unsigned_eq_or text with isPlain | isSigned
    · rw [isPlain] at nonempty decimal ⊢
      exact .plain nonempty decimal
    · have denotes := Denotes.signed nonempty decimal
      rwa [isSigned] at denotes

/-- Exactly the numerals below `Size.limit` are read, each as the number it names. -/
theorem parse?_eq_some_iff {text : List Char} {number : Nat} :
    parse? text = some number ↔ Denotes text number ∧ number < Size.limit := by
  rw [denotes_iff, parse?]
  split
  · rename_i nothing
    simp [nothing]
  · rename_i something
    rw [foldlM_extend?_eq_some_iff (by decide)]
    tauto

/-- What is not read names no number that fits. -/
theorem parse?_eq_none_iff {text : List Char} :
    parse? text = none ↔ ∀ number, Denotes text number → Size.limit ≤ number := by
  simp only [Option.eq_none_iff_forall_ne_some, ne_eq, parse?_eq_some_iff, not_and, Nat.not_lt]

end Numeral

end IntegerPooling
