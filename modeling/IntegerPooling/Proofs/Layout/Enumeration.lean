import IntegerPooling.Proofs.Layout
import IntegerPooling.Proofs.Traversal.RowMajor

/-!
# Elements in the order of memory

The elements of a tensor are kept image by image, row by row, column by column and channel by
channel. Offsets follow this order (`placeAt_lt_placeAt_iff`) and leave no gap: every number below
the number of elements is the offset of exactly one element (`coordinates` finds it). The elements
are counted in another order than an offset is computed in, with the channels right after the
images, but a count that fits a machine word bounds every step towards an offset.
-/

namespace IntegerPooling

/-- Where an element stands in a tensor, from the slowest number to the fastest. -/
structure Coordinates where
  image : Nat
  row : Nat
  column : Nat
  channel : Nat
deriving DecidableEq

namespace Coordinates

def pixel (coordinates : Coordinates) : Pixel :=
  ⟨coordinates.image, coordinates.row, coordinates.column⟩

/-- Whether one element comes before another in memory. -/
def Precedes (first second : Coordinates) : Prop :=
  [first.image, first.row, first.column, first.channel] <
    [second.image, second.row, second.column, second.channel]

theorem precedes_iff {first second : Coordinates} :
    first.Precedes second ↔ first.pixel.Precedes second.pixel ∨
      first.pixel = second.pixel ∧ first.channel < second.channel := by
  simp only [Precedes, Pixel.Precedes, pixel, List.cons_lt_cons_iff, Pixel.mk.injEq,
    List.not_lt_nil, and_false, or_false]
  tauto

end Coordinates

namespace Layout

variable {layout : Layout}

def placeAt (layout : Layout) (position : Coordinates) : Nat :=
  layout.place position.image position.channel position.row position.column

def offsetAt (layout : Layout) (position : Coordinates) : Except Fault Nat :=
  layout.offset position.image position.channel position.row position.column

def Includes (layout : Layout) (position : Coordinates) : Prop :=
  layout.Contains position.image position.channel position.row position.column

/-- The coordinates of the element with a number. -/
def coordinates (layout : Layout) (number : Nat) : Coordinates :=
  let pixel := Traversal.pixelOfNumber (layout.extent.height * layout.extent.width)
    layout.extent.width (number / layout.channels)
  ⟨pixel.image, pixel.row, pixel.column, number % layout.channels⟩

theorem placeAt_eq_number (layout : Layout) (position : Coordinates) :
    layout.placeAt position =
      position.pixel.number layout.extent.height layout.extent.width * layout.channels +
        position.channel :=
  rfl

theorem pixel_within {position : Coordinates} (included : layout.Includes position) :
    position.pixel.Within layout.batch layout.extent.height layout.extent.width :=
  ⟨included.image_lt, included.row_lt, included.column_lt⟩

@[simp] theorem placeAt_coordinates (layout : Layout) (number : Nat) :
    layout.placeAt (layout.coordinates number) = number := by
  have found := Traversal.number_pixelOfNumber layout.extent.height layout.extent.width
    (number / layout.channels)
  rw [placeAt_eq_number]
  simp only [coordinates, Coordinates.pixel, found]
  exact Nat.div_add_mod' number layout.channels

theorem includes_coordinates {number : Nat} (numberLt : number < layout.count) :
    layout.Includes (layout.coordinates number) := by
  rw [count_eq] at numberLt
  have channelsPos := Nat.pos_of_mul_pos_left (Nat.zero_lt_of_lt numberLt)
  have pixelLt := Nat.div_lt_of_lt_mul (Nat.mul_comm _ _ ▸ numberLt)
  rcases Traversal.within_pixelOfNumber pixelLt with ⟨imageLt, rowLt, columnLt⟩
  exact ⟨imageLt, Nat.mod_lt _ channelsPos, rowLt, columnLt⟩

/-- Elements are numbered in the order of memory. -/
theorem placeAt_lt_placeAt_iff {first second : Coordinates} (firstIncluded : layout.Includes first)
    (secondIncluded : layout.Includes second) :
    layout.placeAt first < layout.placeAt second ↔ first.Precedes second := by
  have firstWithin := pixel_within firstIncluded
  have secondWithin := pixel_within secondIncluded
  rw [placeAt_eq_number, placeAt_eq_number, Coordinates.precedes_iff,
    Sequence.number_lt_number_iff firstIncluded.channel_lt secondIncluded.channel_lt,
    Pixel.number_lt_number_iff firstWithin secondWithin,
    Pixel.number_eq_number_iff firstWithin secondWithin]

theorem eq_of_placeAt_eq {first second : Coordinates} (firstIncluded : layout.Includes first)
    (secondIncluded : layout.Includes second)
    (same : layout.placeAt first = layout.placeAt second) : first = second := by
  have firstWithin := pixel_within firstIncluded
  have secondWithin := pixel_within secondIncluded
  rw [placeAt_eq_number, placeAt_eq_number,
    Sequence.number_eq_number_iff firstIncluded.channel_lt secondIncluded.channel_lt,
    Pixel.number_eq_number_iff firstWithin secondWithin] at same
  rcases first with ⟨image, row, column, channel⟩
  rcases second with ⟨otherImage, otherRow, otherColumn, otherChannel⟩
  simp only [Coordinates.pixel, Pixel.mk.injEq] at same
  rcases same with ⟨⟨rfl, rfl, rfl⟩, rfl⟩
  rfl

theorem coordinates_placeAt {position : Coordinates} (included : layout.Includes position) :
    layout.coordinates (layout.placeAt position) = position := by
  apply eq_of_placeAt_eq (includes_coordinates (place_lt_count included)) included
  exact placeAt_coordinates layout (layout.placeAt position)

/-- Two lists with an element for every number agree if they agree at all coordinates. -/
theorem ext_placeAt {α : Type} {elements others : List α} (whole : elements.length = layout.count)
    (othersWhole : others.length = layout.count)
    (same : ∀ position, layout.Includes position →
      elements[layout.placeAt position]? = others[layout.placeAt position]?) :
    elements = others := by
  apply List.ext_getElem?
  intro number
  by_cases numberLt : number < layout.count
  · have sameHere := same _ (includes_coordinates numberLt)
    rwa [placeAt_coordinates] at sameHere
  · have outside := Nat.le_of_not_lt numberLt
    rw [List.getElem?_eq_none (by rwa [whole]), List.getElem?_eq_none (by rwa [othersWhole])]

/-- The last byte of an element is a byte of the tensor. -/
theorem placeAt_mul_add_size_le {position : Coordinates} (included : layout.Includes position) :
    layout.placeAt position * layout.dataType.size + layout.dataType.size ≤
      layout.count * layout.dataType.size := by
  rw [← Nat.succ_mul]
  exact Nat.mul_le_mul_right _ (place_lt_count included)

/-- Once the elements of a layout can be counted, the offsets of its coordinates can be computed
without leaving a machine word. They are exactly the numbers below the count, each of them once,
and increase in the order of memory. Once the bytes can be counted as well, so can the address of
every element, and the element ends inside the tensor. -/
theorem offset_enumerates {count : Nat} (counted : layout.elementCount = .ok count) :
    (∀ position, layout.Includes position →
      ∃ place < count, layout.offsetAt position = .ok place) ∧
    (∀ place < count,
      ∃! position, layout.Includes position ∧ layout.offsetAt position = .ok place) ∧
    (∀ first second place other, layout.Includes first → layout.Includes second →
      layout.offsetAt first = .ok place → layout.offsetAt second = .ok other →
        (place < other ↔ first.Precedes second)) ∧
    ∀ bytes, layout.byteSize = .ok bytes → ∀ position, layout.Includes position →
      ∃ place address, layout.offsetAt position = .ok place ∧
        Size.mul place layout.dataType.size = .ok address ∧
        address + layout.dataType.size ≤ bytes := by
  rcases elementCount_eq_ok_iff.mp counted with ⟨countable, rfl⟩
  have fits : layout.count < Size.limit := by
    simp only [Uncountable, not_or, Nat.not_le] at countable
    exact countable.2.2
  have computed : ∀ position, layout.Includes position →
      layout.offsetAt position = .ok (layout.placeAt position) :=
    fun position included => offset_of_contains fits included
  refine ⟨?_, ?_, ?_, ?_⟩
  · intro position included
    exact ⟨_, place_lt_count included, computed position included⟩
  · intro place placeLt
    have included := includes_coordinates placeLt
    refine ⟨layout.coordinates place, ⟨included, ?_⟩, ?_⟩
    · rw [computed _ included, placeAt_coordinates]
    · rintro position ⟨positionIncluded, isPlace⟩
      rw [computed _ positionIncluded] at isPlace
      cases isPlace
      exact (coordinates_placeAt positionIncluded).symm
  · intro first second place other firstIncluded secondIncluded isPlace isOther
    rw [computed _ firstIncluded] at isPlace
    rw [computed _ secondIncluded] at isOther
    cases isPlace
    cases isOther
    exact placeAt_lt_placeAt_iff firstIncluded secondIncluded
  · intro bytes sized position included
    rcases byteSize_eq_ok_iff.mp sized with ⟨bytesFit, rfl⟩
    exact ⟨_, _, computed position included, Size.mul_of_lt (place_mul_size_lt bytesFit included),
      placeAt_mul_add_size_le included⟩

/-- The last element of a tensor ends with its last byte. -/
theorem offset_enumerates_last :
    ∃ place address,
      offsetAt ⟨2, 3, ⟨4, 5⟩, .s32⟩ ⟨1, 3, 4, 2⟩ = .ok place ∧ place < 120 ∧
        Size.mul place 4 = .ok address ∧ address + 4 ≤ 480 := by
  have counted : elementCount ⟨2, 3, ⟨4, 5⟩, .s32⟩ = .ok 120 := rfl
  have included : Includes ⟨2, 3, ⟨4, 5⟩, .s32⟩ ⟨1, 3, 4, 2⟩ :=
    ⟨by decide, by decide, by decide, by decide⟩
  have enumerated := offset_enumerates counted
  rcases enumerated.1 _ included with ⟨place, placeLt, isPlace⟩
  rcases enumerated.2.2.2 480 rfl _ included with ⟨same, address, isSame, addressed, inside⟩
  rw [isPlace] at isSame
  cases isSame
  exact ⟨place, address, isPlace, placeLt, addressed, inside⟩

end Layout

end IntegerPooling
