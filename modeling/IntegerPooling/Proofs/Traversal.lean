import IntegerPooling.Proofs.Outcome
import IntegerPooling.Proofs.Sequence
import IntegerPooling.Traversal
import Mathlib.Data.List.Nodup

/-!
# Numbered pixels

Counting the pixels row by row gives each one a number, and `pixelOfNumber` finds the pixel of a
number again. Taking the numbers in increasing order therefore visits exactly the pixels of the
nested loops over images, rows and columns, in their order (`rowMajorPixels_eq_map`).

What a run expects of a traversal is that it visits every pixel once (`VisitsOnce`). All the
traversals of the library do, as far as they can number the pixels.
-/

namespace IntegerPooling

/-- The number of a pixel, counting row by row through planes of a size. -/
def Pixel.number (rows columns : Nat) (pixel : Pixel) : Nat :=
  (pixel.image * rows + pixel.row) * columns + pixel.column

def Pixel.Within (images rows columns : Nat) (pixel : Pixel) : Prop :=
  pixel.image < images ∧ pixel.row < rows ∧ pixel.column < columns

instance (images rows columns : Nat) (pixel : Pixel) :
    Decidable (pixel.Within images rows columns) :=
  inferInstanceAs (Decidable (_ ∧ _ ∧ _))

namespace Traversal

theorem mem_rowMajorPixels {images rows columns : Nat} {pixel : Pixel} :
    pixel ∈ rowMajorPixels images rows columns ↔ pixel.Within images rows columns := by
  rcases pixel with ⟨image, row, column⟩
  simp only [rowMajorPixels, Pixel.Within, List.mem_flatMap, List.mem_map, List.mem_range,
    Pixel.mk.injEq]
  constructor
  · rintro ⟨_, imageLt, _, rowLt, _, columnLt, rfl, rfl, rfl⟩
    exact ⟨imageLt, rowLt, columnLt⟩
  · rintro ⟨imageLt, rowLt, columnLt⟩
    exact ⟨image, imageLt, row, rowLt, column, columnLt, rfl, rfl, rfl⟩

theorem number_pixelOfNumber (rows columns number : Nat) :
    (pixelOfNumber (rows * columns) columns number).number rows columns = number := by
  have plane := Nat.div_add_mod number (rows * columns)
  have line := Nat.div_add_mod (number % (rows * columns)) columns
  simp only [pixelOfNumber, Pixel.number, Nat.add_mul, Nat.mul_assoc]
  rw [Nat.mul_comm (number / (rows * columns)),
    Nat.mul_comm (number % (rows * columns) / columns), Nat.add_assoc, line, plane]

theorem pixelOfNumber_number {rows columns : Nat} {pixel : Pixel} (rowLt : pixel.row < rows)
    (columnLt : pixel.column < columns) :
    pixelOfNumber (rows * columns) columns (pixel.number rows columns) = pixel := by
  rcases pixel with ⟨image, row, column⟩
  have inPlane : row * columns + column < rows * columns := Sequence.number_lt rowLt columnLt
  have split : (image * rows + row) * columns + column =
      image * (rows * columns) + (row * columns + column) := by
    rw [Nat.add_mul, Nat.mul_assoc, Nat.add_assoc]
  simp only [pixelOfNumber, Pixel.number, split, Sequence.number_div _ inPlane,
    Sequence.number_mod _ inPlane, Sequence.number_div _ columnLt, Sequence.number_mod _ columnLt]

/-- The nested loops visit the pixels by increasing number. -/
theorem rowMajorPixels_eq_map (images rows columns : Nat) :
    rowMajorPixels images rows columns =
      (List.range (images * (rows * columns))).map (pixelOfNumber (rows * columns) columns) := by
  rw [rowMajorPixels, ← Sequence.flatMap_range_map]
  apply List.flatMap_congr
  intro image _
  rw [← Sequence.flatMap_range_map]
  apply List.flatMap_congr
  intro row rowMem
  apply List.map_congr_left
  intro column columnMem
  have found : pixelOfNumber (rows * columns) columns
      (Pixel.number rows columns ⟨image, row, column⟩) = ⟨image, row, column⟩ :=
    pixelOfNumber_number (List.mem_range.mp rowMem) (List.mem_range.mp columnMem)
  rw [Pixel.number, Nat.add_mul, Nat.mul_assoc, Nat.add_assoc] at found
  exact found.symm

theorem number_lt {images rows columns : Nat} {pixel : Pixel}
    (within : pixel.Within images rows columns) :
    pixel.number rows columns < images * (rows * columns) := by
  rcases within with ⟨imageLt, rowLt, columnLt⟩
  rw [← Nat.mul_assoc]
  exact Sequence.number_lt (Sequence.number_lt imageLt rowLt) columnLt

theorem within_pixelOfNumber {images rows columns number : Nat}
    (numberLt : number < images * (rows * columns)) :
    (pixelOfNumber (rows * columns) columns number).Within images rows columns := by
  apply mem_rowMajorPixels.mp
  rw [rowMajorPixels_eq_map]
  exact List.mem_map_of_mem (List.mem_range.mpr numberLt)

/-- The flattened order is the nested one whenever the pixels can be numbered. -/
theorem flattened_order_eq_ok {images rows columns : Nat} (planeFits : rows * columns < Size.limit)
    (totalFits : images * (rows * columns) < Size.limit) :
    flattened.order images rows columns = .ok (rowMajorPixels images rows columns) := by
  rw [rowMajorPixels_eq_map]
  simp only [flattened, Size.mul_of_lt planeFits, Size.mul_of_lt totalFits, Outcome.ok_bind]
  rfl

theorem nodup_rowMajorPixels (images rows columns : Nat) :
    (rowMajorPixels images rows columns).Nodup := by
  apply List.Nodup.of_map (Pixel.number rows columns)
  have numbers : Pixel.number rows columns ∘ pixelOfNumber (rows * columns) columns = id :=
    funext (number_pixelOfNumber rows columns)
  rw [rowMajorPixels_eq_map, List.map_map, numbers, List.map_id]
  exact List.nodup_range

/-- Whether a traversal visits every pixel of an index space exactly once and no other pixel. -/
def VisitsOnce (traversal : Traversal) (images rows columns : Nat) : Prop :=
  ∃ pixels, traversal.order images rows columns = .ok pixels ∧ pixels.Nodup ∧
    ∀ pixel, pixel ∈ pixels ↔ pixel.Within images rows columns

theorem visitsOnce_rowMajor (images rows columns : Nat) :
    rowMajor.VisitsOnce images rows columns :=
  ⟨_, rfl, nodup_rowMajorPixels images rows columns, fun _ => mem_rowMajorPixels⟩

theorem visitsOnce_reversed (images rows columns : Nat) :
    reversed.VisitsOnce images rows columns :=
  ⟨_, rfl, List.nodup_reverse.mpr (nodup_rowMajorPixels images rows columns), fun _ =>
    List.mem_reverse.trans mem_rowMajorPixels⟩

theorem visitsOnce_flattened {images rows columns : Nat} (planeFits : rows * columns < Size.limit)
    (totalFits : images * (rows * columns) < Size.limit) :
    flattened.VisitsOnce images rows columns :=
  ⟨_, flattened_order_eq_ok planeFits totalFits, nodup_rowMajorPixels images rows columns,
    fun _ => mem_rowMajorPixels⟩

end Traversal

end IntegerPooling
