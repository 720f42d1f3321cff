import IntegerPooling.Proofs.Traversal

/-!
# The order of the numbered pixels

Pixels come in row-major order when images are compared first, then rows, then columns. The number
of a pixel follows this order (`number_lt_number_iff`), so taking all numbers from zero on lists
the pixels of an index space in it, each of them once. A number is only ever divided by the size
of a plane that has pixels; an empty plane has no numbers at all. What the numbers do add to the
nested loops is a fault: they have to fit a machine word, even where there is nothing to visit.
-/

namespace IntegerPooling

namespace Pixel

variable {images rows columns : Nat} {first second : Pixel}

/-- Whether one pixel comes before another, image by image and row by row. -/
def Precedes (first second : Pixel) : Prop :=
  [first.image, first.row, first.column] < [second.image, second.row, second.column]

theorem precedes_iff :
    first.Precedes second ↔
      first.image < second.image ∨ first.image = second.image ∧
        (first.row < second.row ∨ first.row = second.row ∧ first.column < second.column) := by
  simp [Precedes, List.cons_lt_cons_iff]

/-- A pixel is known by its number. -/
theorem number_eq_number_iff (firstWithin : first.Within images rows columns)
    (secondWithin : second.Within images rows columns) :
    first.number rows columns = second.number rows columns ↔ first = second := by
  constructor
  · intro same
    rw [← Traversal.pixelOfNumber_number firstWithin.2.1 firstWithin.2.2, same,
      Traversal.pixelOfNumber_number secondWithin.2.1 secondWithin.2.2]
  · rintro rfl
    rfl

theorem number_lt_number_iff (firstWithin : first.Within images rows columns)
    (secondWithin : second.Within images rows columns) :
    first.number rows columns < second.number rows columns ↔ first.Precedes second := by
  rcases firstWithin with ⟨_, firstRowLt, firstColumnLt⟩
  rcases secondWithin with ⟨_, secondRowLt, secondColumnLt⟩
  rw [precedes_iff, number, number, Sequence.number_lt_number_iff firstColumnLt secondColumnLt,
    Sequence.number_lt_number_iff firstRowLt secondRowLt,
    Sequence.number_eq_number_iff firstRowLt secondRowLt]
  omega

end Pixel

namespace Traversal

variable {images rows columns : Nat}

theorem length_rowMajorPixels (images rows columns : Nat) :
    (rowMajorPixels images rows columns).length = images * (rows * columns) := by
  simp [rowMajorPixels_eq_map]

theorem getElem?_rowMajorPixels {number : Nat} (numberLt : number < images * (rows * columns)) :
    (rowMajorPixels images rows columns)[number]? =
      some (pixelOfNumber (rows * columns) columns number) := by
  simp [rowMajorPixels_eq_map, numberLt]

/-- The nested loops visit the pixels in row-major order. -/
theorem pairwise_rowMajorPixels (images rows columns : Nat) :
    (rowMajorPixels images rows columns).Pairwise Pixel.Precedes := by
  rw [rowMajorPixels_eq_map, List.pairwise_map]
  apply List.pairwise_lt_range.imp_of_mem
  intro first second firstMem secondMem inOrder
  have firstWithin := within_pixelOfNumber (List.mem_range.mp firstMem)
  have secondWithin := within_pixelOfNumber (List.mem_range.mp secondMem)
  apply (Pixel.number_lt_number_iff firstWithin secondWithin).mp
  simpa only [number_pixelOfNumber] using inOrder

/-- An index space without pixels, which the nested loops leave at once. -/
theorem rowMajorPixels_eq_nil (empty : images = 0 ∨ rows = 0 ∨ columns = 0) :
    rowMajorPixels images rows columns = [] := by
  apply List.length_eq_zero_iff.mp
  rw [length_rowMajorPixels]
  rcases empty with rfl | rfl | rfl <;> simp

/-- Numbering the pixels fails only when the size of a plane or of all planes leaves a machine
word. -/
theorem flattened_explained (images rows columns : Nat) :
    Cause.Explains
      [⟨Size.limit ≤ rows * columns, .overflow .multiply⟩,
        ⟨Size.limit ≤ images * (rows * columns), .overflow .multiply⟩]
      (flattened.order images rows columns) := by
  apply Cause.Explains.cons
  · intro large
    simp only [flattened, Size.mul_of_le large, Outcome.error_bind]
  · intro planeFits
    have planeLt := Nat.lt_of_not_le planeFits
    apply Cause.Explains.cons
    · intro large
      simp only [flattened, Size.mul_of_lt planeLt, Outcome.ok_bind, Size.mul_of_le large,
        Outcome.error_bind]
    · intro totalFits
      rw [flattened_order_eq_ok planeLt (Nat.lt_of_not_le totalFits)]
      exact Cause.Explains.nil _

/-- Taken in increasing order, the numbers visit exactly the pixels of the nested loops and in
their order, and no number is divided by zero. The traversal is stopped if and only if the pixels
of a plane or of all planes cannot be counted in a machine word, an empty index space included,
where the nested loops have nothing to visit. -/
theorem flattened_decided (images rows columns : Nat) :
    Cause.Explains
        [⟨Size.limit ≤ rows * columns, .overflow .multiply⟩,
          ⟨Size.limit ≤ images * (rows * columns), .overflow .multiply⟩]
        (flattened.order images rows columns) ∧
      (∀ pixels, flattened.order images rows columns = .ok pixels →
        rowMajor.order images rows columns = .ok pixels ∧
          pixels.length = images * (rows * columns) ∧
          (∀ number < images * (rows * columns),
            rows * columns ≠ 0 ∧ columns ≠ 0 ∧
              pixels[number]? = some ⟨number / (rows * columns),
                number % (rows * columns) / columns, number % (rows * columns) % columns⟩) ∧
          pixels.Pairwise Pixel.Precedes ∧ pixels.Nodup ∧
          ∀ pixel, pixel ∈ pixels ↔ pixel.Within images rows columns) ∧
      (images = 0 ∨ rows = 0 ∨ columns = 0 → rowMajor.order images rows columns = .ok []) := by
  have explained := flattened_explained images rows columns
  refine ⟨explained, ?_, ?_⟩
  · intro pixels numbered
    have fits := explained.succeeded_iff.mp ⟨pixels, numbered⟩
    simp only [Cause.absent_cons, Nat.not_le] at fits
    rw [flattened_order_eq_ok fits.1 fits.2.1] at numbered
    cases numbered
    refine ⟨rfl, length_rowMajorPixels images rows columns, ?_,
      pairwise_rowMajorPixels images rows columns, nodup_rowMajorPixels images rows columns,
      fun _ => mem_rowMajorPixels⟩
    intro number numberLt
    have planePos := Nat.pos_of_mul_pos_left (Nat.zero_lt_of_lt numberLt)
    exact ⟨Nat.ne_of_gt planePos, Nat.ne_of_gt (Nat.pos_of_mul_pos_left planePos),
      getElem?_rowMajorPixels numberLt⟩
  · intro empty
    exact congrArg Except.ok (rowMajorPixels_eq_nil empty)

/-- No image and planes that are too large: the numbers fail where the loops visit nothing. -/
theorem flattened_decided_noImage :
    flattened.order 0 (2 ^ 32) (2 ^ 32) = .error (.overflow .multiply) ∧
      rowMajor.order 0 (2 ^ 32) (2 ^ 32) = .ok [] := by
  have decided := flattened_decided 0 (2 ^ 32) (2 ^ 32)
  exact ⟨(decided.1.failed_iff _).mpr (.inl ⟨by decide, rfl⟩), decided.2.2 (.inl rfl)⟩

end Traversal

end IntegerPooling
