import IntegerPooling.Size

/-!
# Channels-last tensors

A layout describes a dense tensor by the number of its images, channels, rows and columns. In
memory the channels of one pixel are neighbours, then come the columns, the rows and the images,
so stepping one column moves by the number of channels.
-/

namespace IntegerPooling

/-- The shape and the data type of a dense tensor. -/
structure Layout where
  batch : Nat
  channels : Nat
  extent : Spatial
  dataType : DataType
deriving DecidableEq, Repr

namespace Layout

/-- The place of an element among all elements. -/
def offset (layout : Layout) (image channel row column : Nat) : Except Fault Nat := do
  let rowsBefore ← Size.add (← Size.mul image layout.extent.height) row
  let pixelsBefore ← Size.add (← Size.mul rowsBefore layout.extent.width) column
  Size.add (← Size.mul pixelsBefore layout.channels) channel

def elementCount (layout : Layout) : Except Fault Nat := do
  let planes ← Size.mul layout.batch layout.channels
  let lines ← Size.mul planes layout.extent.height
  Size.mul lines layout.extent.width

def byteSize (layout : Layout) : Except Fault Nat := do
  Size.mul (← layout.elementCount) layout.dataType.size

/-- The number of elements of a tensor for which a new buffer can be had: its bytes have to fit
half the range of a machine word. -/
def allocation (layout : Layout) : Except Fault Nat := do
  let count ← layout.elementCount
  if count * layout.dataType.size < 2 ^ 63 then return count else throw .capacity

end Layout

end IntegerPooling
