import IntegerPooling.Size

/-!
# Orders of the output pixels

Output pixels do not depend on each other, so a run may visit them in any order. A traversal
gives the pixels of an index space as a list. The flattened traversal numbers them by one machine
word, which is a fault if there are too many, also when one of the other extents is zero.
-/

namespace IntegerPooling

structure Pixel where
  image : Nat
  row : Nat
  column : Nat
deriving DecidableEq, Repr

/-- A way to list the pixels of a number of images, rows and columns. -/
structure Traversal where
  order : (images rows columns : Nat) → Except Fault (List Pixel)

namespace Traversal

/-- All pixels, image by image and row by row. -/
def rowMajorPixels (images rows columns : Nat) : List Pixel :=
  (List.range images).flatMap fun image =>
    (List.range rows).flatMap fun row =>
      (List.range columns).map fun column => ⟨image, row, column⟩

def rowMajor : Traversal :=
  ⟨fun images rows columns => .ok (rowMajorPixels images rows columns)⟩

def reversed : Traversal :=
  ⟨fun images rows columns => .ok (rowMajorPixels images rows columns).reverse⟩

/-- The pixel with a number, counting row by row through planes of a size. -/
def pixelOfNumber (plane columns number : Nat) : Pixel :=
  ⟨number / plane, number % plane / columns, number % plane % columns⟩

def flattened : Traversal where
  order images rows columns := do
    let plane ← Size.mul rows columns
    let total ← Size.mul images plane
    return (List.range total).map (pixelOfNumber plane columns)

/-- The traversal of a run for which none is chosen. -/
def standard : Traversal :=
  flattened

end Traversal

end IntegerPooling
