import IntegerPooling.Layout
import IntegerPooling.Proofs.Traversal

/-!
# Places of elements

Sizes and offsets are computed in machine words. Here they are compared with the same numbers
without a bound: `count` is the number of elements of a layout and `place` the number of an
element. The size of a tensor is an exact product or a fault (`Oversized`), and once the elements
can be counted every offset of coordinates inside the tensor can be computed (`offset_of_contains`),
although the factors are multiplied in another order.
-/

namespace IntegerPooling

namespace Layout

/-- The number of elements of a layout, however large. -/
def count (layout : Layout) : Nat :=
  layout.batch * layout.channels * layout.extent.height * layout.extent.width

/-- The number of an element of a layout, however large. -/
def place (layout : Layout) (image channel row column : Nat) : Nat :=
  ((image * layout.extent.height + row) * layout.extent.width + column) * layout.channels + channel

structure Contains (layout : Layout) (image channel row column : Nat) : Prop where
  image_lt : image < layout.batch
  channel_lt : channel < layout.channels
  row_lt : row < layout.extent.height
  column_lt : column < layout.extent.width

/-- Whether the elements cannot be counted in a machine word, multiplying from left to right. -/
def Uncountable (layout : Layout) : Prop :=
  Size.limit ≤ layout.batch * layout.channels ∨
    Size.limit ≤ layout.batch * layout.channels * layout.extent.height ∨
    Size.limit ≤ layout.count

/-- Whether the bytes cannot be counted in a machine word, multiplying from left to right. -/
def Oversized (layout : Layout) : Prop :=
  layout.Uncountable ∨ Size.limit ≤ layout.count * layout.dataType.size

theorem place_eq_add (layout : Layout) (image channel row column : Nat) :
    layout.place image channel row column = layout.place image 0 row column + channel := by
  rw [place, place, Nat.add_zero]

theorem place_eq_number (layout : Layout) (pixel : Pixel) (channel : Nat) :
    layout.place pixel.image channel pixel.row pixel.column =
      pixel.number layout.extent.height layout.extent.width * layout.channels + channel :=
  rfl

theorem count_eq (layout : Layout) :
    layout.count =
      layout.batch * (layout.extent.height * layout.extent.width) * layout.channels := by
  rw [count]
  ac_rfl

theorem place_lt_count {layout : Layout} {image channel row column : Nat}
    (contained : layout.Contains image channel row column) :
    layout.place image channel row column < layout.count := by
  have inImages := Sequence.number_lt contained.image_lt contained.row_lt
  have inRows := Sequence.number_lt inImages contained.column_lt
  have inPixels := Sequence.number_lt inRows contained.channel_lt
  rw [count_eq, ← Nat.mul_assoc]
  exact inPixels

theorem elementCount_of_uncountable {layout : Layout} (uncountable : layout.Uncountable) :
    layout.elementCount = .error (.overflow .multiply) := by
  rw [elementCount]
  by_cases planes : layout.batch * layout.channels < Size.limit
  · rw [Size.mul_of_lt planes, Outcome.ok_bind]
    by_cases lines : layout.batch * layout.channels * layout.extent.height < Size.limit
    · rw [Size.mul_of_lt lines, Outcome.ok_bind]
      apply Size.mul_of_le
      rcases uncountable with large | large | large
      · omega
      · omega
      · exact large
    · rw [Size.mul_of_le (Nat.le_of_not_lt lines)]
      rfl
  · rw [Size.mul_of_le (Nat.le_of_not_lt planes)]
    rfl

theorem elementCount_of_countable {layout : Layout} (countable : ¬layout.Uncountable) :
    layout.elementCount = .ok layout.count := by
  simp only [Uncountable, not_or, Nat.not_le] at countable
  rcases countable with ⟨planes, lines, all⟩
  rw [elementCount, Size.mul_of_lt planes, Outcome.ok_bind, Size.mul_of_lt lines,
    Outcome.ok_bind]
  exact Size.mul_of_lt all

theorem elementCount_eq_ok_iff {layout : Layout} {count : Nat} :
    layout.elementCount = .ok count ↔ ¬layout.Uncountable ∧ count = layout.count := by
  by_cases uncountable : layout.Uncountable
  · simp [elementCount_of_uncountable uncountable, uncountable]
  · simp [elementCount_of_countable uncountable, uncountable, eq_comm]

theorem byteSize_of_oversized {layout : Layout} (oversized : layout.Oversized) :
    layout.byteSize = .error (.overflow .multiply) := by
  rw [byteSize]
  by_cases uncountable : layout.Uncountable
  · rw [elementCount_of_uncountable uncountable]
    rfl
  · rw [elementCount_of_countable uncountable]
    exact Size.mul_of_le (oversized.resolve_left uncountable)

theorem byteSize_of_not_oversized {layout : Layout} (fits : ¬layout.Oversized) :
    layout.byteSize = .ok (layout.count * layout.dataType.size) := by
  simp only [Oversized, not_or, Nat.not_le] at fits
  rw [byteSize, elementCount_of_countable fits.1]
  exact Size.mul_of_lt fits.2

theorem byteSize_eq_ok_iff {layout : Layout} {bytes : Nat} :
    layout.byteSize = .ok bytes ↔
      ¬layout.Oversized ∧ bytes = layout.count * layout.dataType.size := by
  by_cases oversized : layout.Oversized
  · rw [byteSize_of_oversized oversized]
    simp [oversized]
  · rw [byteSize_of_not_oversized oversized]
    simp [oversized, eq_comm]

theorem count_lt_limit {layout : Layout} (fits : ¬layout.Oversized) :
    layout.count < Size.limit := by
  simp only [Oversized, Uncountable, not_or, Nat.not_le] at fits
  exact fits.1.2.2

/-- The elements of a tensor with rows and columns can be counted when their number is small. -/
theorem not_oversized_of_lt {layout : Layout} (heightPos : 0 < layout.extent.height)
    (widthPos : 0 < layout.extent.width) (sizePos : 0 < layout.dataType.size)
    (small : layout.count * layout.dataType.size < Size.limit) : ¬layout.Oversized := by
  have planesLe := Nat.le_mul_of_pos_right (layout.batch * layout.channels) heightPos
  have linesLe : layout.batch * layout.channels * layout.extent.height ≤ layout.count :=
    Nat.le_mul_of_pos_right _ widthPos
  have countLe := Nat.le_mul_of_pos_right layout.count sizePos
  simp only [Oversized, Uncountable, not_or, Nat.not_le]
  omega

theorem allocation_of_byteSize {layout : Layout} {bytes : Nat}
    (sized : layout.byteSize = .ok bytes) (small : bytes < 2 ^ 63) :
    layout.allocation = .ok layout.count := by
  rcases byteSize_eq_ok_iff.mp sized with ⟨fits, rfl⟩
  have counted := elementCount_of_countable fun uncountable => fits (Or.inl uncountable)
  rw [allocation, counted]
  exact if_pos small

theorem place_mul_size_lt {layout : Layout} {image channel row column : Nat}
    (fits : ¬layout.Oversized) (contained : layout.Contains image channel row column) :
    layout.place image channel row column * layout.dataType.size < Size.limit := by
  have before := Nat.mul_le_mul_right layout.dataType.size
    (Nat.le_of_lt (place_lt_count contained))
  simp only [Oversized, not_or, Nat.not_le] at fits
  omega

theorem offset_eq_ok_iff {layout : Layout} {image channel row column result : Nat} :
    layout.offset image channel row column = .ok result ↔
      image * layout.extent.height < Size.limit ∧
        image * layout.extent.height + row < Size.limit ∧
        (image * layout.extent.height + row) * layout.extent.width < Size.limit ∧
        (image * layout.extent.height + row) * layout.extent.width + column < Size.limit ∧
        ((image * layout.extent.height + row) * layout.extent.width + column) * layout.channels <
          Size.limit ∧
        layout.place image channel row column = result ∧ result < Size.limit := by
  simp only [offset, Outcome.bind_eq_ok_iff, Size.mul_eq_ok_iff, Size.add_eq_ok_iff, and_assoc,
    exists_eq_left', place]

theorem eq_place_of_offset {layout : Layout} {image channel row column result : Nat}
    (computed : layout.offset image channel row column = .ok result) :
    result = layout.place image channel row column :=
  (offset_eq_ok_iff.mp computed).2.2.2.2.2.1.symm

/-- No intermediate sum or product exceeds the place itself, which is below the count. -/
theorem offset_of_contains {layout : Layout} {image channel row column : Nat}
    (countable : layout.count < Size.limit)
    (contained : layout.Contains image channel row column) :
    layout.offset image channel row column = .ok (layout.place image channel row column) := by
  have below := Nat.lt_trans (place_lt_count contained) countable
  have channels : ∀ pixels, pixels ≤ pixels * layout.channels := by
    intro pixels
    exact Nat.le_mul_of_pos_right pixels (Nat.zero_lt_of_lt contained.channel_lt)
  have columns : ∀ rows, rows ≤ rows * layout.extent.width := by
    intro rows
    exact Nat.le_mul_of_pos_right rows (Nat.zero_lt_of_lt contained.column_lt)
  have pixelsLe := channels ((image * layout.extent.height + row) * layout.extent.width + column)
  have rowsLe := columns (image * layout.extent.height + row)
  rw [place] at below
  apply offset_eq_ok_iff.mpr
  refine ⟨?_, ?_, ?_, ?_, ?_, rfl, below⟩ <;> omega

end Layout

end IntegerPooling
