/-!
# Pairs of a height and a width

Extents, kernels, strides and paddings all come as one number for each of the two axes.
-/

namespace IntegerPooling

structure Spatial where
  height : Nat
  width : Nat
deriving DecidableEq, Repr

namespace Spatial

def transpose (pair : Spatial) : Spatial :=
  ⟨pair.width, pair.height⟩

/-- The pair in brackets, height first. -/
def text (pair : Spatial) : String :=
  s!"[{pair.height}, {pair.width}]"

end Spatial

end IntegerPooling
