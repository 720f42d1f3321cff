import IntegerPooling.Binary32.Scale
import IntegerPooling.Operator.Basic

/-!
# Plans

A plan holds every number that pooling one tensor needs. It is usually made from an operator and
two layouts, which makes its numbers consistent, but it can also be put together by hand; the
rules of this module hold of any plan.

For each output pixel a plan gives the window, the part of the kernel that lies inside the input,
and the factor that turns the sum of that window into its average.
-/

namespace IntegerPooling

/-- The numbers of one pooling run. -/
structure Plan where
  algorithm : Algorithm
  batch : Nat
  channels : Nat
  input : Spatial
  output : Spatial
  kernel : Spatial
  stride : Spatial
  before : Spatial
  source : DataType
  destination : DataType
  instructionSet : InstructionSet
  /-- The channels of one vector block. -/
  block : Nat
  /-- The blocks of one pass over a window. -/
  unroll : Nat
deriving DecidableEq, Repr

/-- The input rows and columns of one output pixel. -/
structure Window where
  rows : Span
  columns : Span
deriving DecidableEq, Repr

/-- The bytes of one vector lane: a maximum works on source elements, an average on 32-bit sums. -/
def Algorithm.laneBytes (algorithm : Algorithm) (source : DataType) : Nat :=
  match algorithm with
  | .maximum => source.size
  | .averageIncludingPadding => 4
  | .averageExcludingPadding => 4

def InstructionSet.blockWidth (set : InstructionSet) (algorithm : Algorithm) (source : DataType) :
    Nat :=
  set.vectorBytes / algorithm.laneBytes source

namespace Plan

/-- The channels that no full block covers. -/
def tail (plan : Plan) : Nat :=
  plan.channels % plan.block

def fullBlocks (plan : Plan) : Nat :=
  plan.channels / plan.block

def sourceLayout (plan : Plan) : Layout :=
  ⟨plan.batch, plan.channels, plan.input, plan.source⟩

def destinationLayout (plan : Plan) : Layout :=
  ⟨plan.batch, plan.channels, plan.output, plan.destination⟩

def vertical (plan : Plan) : Axis :=
  ⟨plan.input.height, plan.kernel.height, plan.stride.height, plan.before.height⟩

def horizontal (plan : Plan) : Axis :=
  ⟨plan.input.width, plan.kernel.width, plan.stride.width, plan.before.width⟩

def window (plan : Plan) (row column : Nat) : Except Fault Window := do
  let rows ← plan.vertical.span row
  let columns ← plan.horizontal.span column
  return ⟨rows, columns⟩

/-- The number that the sum of a window is divided by. A maximum has no use for it, but is given
the size of its kernel like the average that includes padding. -/
def divisor (plan : Plan) (window : Window) : Except Fault Nat :=
  match plan.algorithm with
  | .averageExcludingPadding => Size.mul window.rows.count window.columns.count
  | .averageIncludingPadding => Size.mul plan.kernel.height plan.kernel.width
  | .maximum => Size.mul plan.kernel.height plan.kernel.width

/-- The factor that turns the sum of a window into its average. -/
def factor (plan : Plan) (window : Window) : Except Fault Binary32 := do
  return Binary32.perCount (← plan.divisor window)

theorem fullBlocks_mul_add_tail (plan : Plan) :
    plan.fullBlocks * plan.block + plan.tail = plan.channels :=
  Nat.div_add_mod' _ _

end Plan

end IntegerPooling
