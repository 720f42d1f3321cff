import IntegerPooling.Axis
import IntegerPooling.Layout

/-!
# Pooling operators

An operator says how windows are placed over an input and what each is reduced to. Padding before
the input moves the windows; padding after it only makes room for more of them.
-/

namespace IntegerPooling

structure Operator where
  algorithm : Algorithm
  kernel : Spatial
  stride : Spatial
  before : Spatial
  after : Spatial
deriving DecidableEq, Repr

namespace Operator

/-- The operator whose windows start at every position of an input without padding. -/
def dense (algorithm : Algorithm) (kernel : Spatial) : Operator :=
  ⟨algorithm, kernel, ⟨1, 1⟩, ⟨0, 0⟩, ⟨0, 0⟩⟩

def withStride (operator : Operator) (stride : Spatial) : Operator :=
  { operator with stride := stride }

def withPadding (operator : Operator) (padding : Spatial) : Operator :=
  { operator with before := padding, after := padding }

def withPaddings (operator : Operator) (before after : Spatial) : Operator :=
  { operator with before := before, after := after }

def transpose (operator : Operator) : Operator :=
  { operator with
    kernel := operator.kernel.transpose
    stride := operator.stride.transpose
    before := operator.before.transpose
    after := operator.after.transpose }

def vertical (operator : Operator) (input : Spatial) : Axis :=
  ⟨input.height, operator.kernel.height, operator.stride.height, operator.before.height⟩

def horizontal (operator : Operator) (input : Spatial) : Axis :=
  ⟨input.width, operator.kernel.width, operator.stride.width, operator.before.width⟩

def outputExtent (operator : Operator) (input : Spatial) : Except Fault Spatial := do
  let height ← (operator.vertical input).positions operator.after.height
  let width ← (operator.horizontal input).positions operator.after.width
  return ⟨height, width⟩

def destination (operator : Operator) (source : Layout) (dataType : DataType) :
    Except Fault Layout := do
  return ⟨source.batch, source.channels, ← operator.outputExtent source.extent, dataType⟩

end Operator

end IntegerPooling
