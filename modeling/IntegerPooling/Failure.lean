import IntegerPooling.Algorithm
import IntegerPooling.Element.DataType
import IntegerPooling.Options.Basic
import IntegerPooling.Spatial

/-!
# What can go wrong

A `Refusal` answers a request that cannot be met: it names an unsupported choice, an inconsistent
shape or a malformed option, and is an ordinary result. A `Fault` stops a computation whose
preconditions do not hold: a size that a machine word cannot carry, a buffer of the wrong length,
a window without any input. `Failure` is either of the two. The wording of each stands in one
`message` function.
-/

namespace IntegerPooling

inductive Side where
  | source
  | destination
deriving DecidableEq, Repr

def Side.name : Side → String
  | source => "source"
  | destination => "destination"

/-- The arithmetic on sizes that can leave a machine word. -/
inductive SizeOperation where
  | add
  | subtract
  | multiply
deriving DecidableEq, Repr

def SizeOperation.name : SizeOperation → String
  | add => "add"
  | subtract => "subtract"
  | multiply => "multiply"

/-- Why a computation stopped. -/
inductive Fault where
  | overflow (operation : SizeOperation)
  /-- The window of an output pixel has no position inside the input. -/
  | emptyWindow
  /-- A routine and its plan disagree on the channels of a block. -/
  | blockMismatch (routine plan : Nat)
  | bufferSize (side : Side) (expected given : Nat)
  | elementType (side : Side) (kernel given : DataType)
  | sourceLength (given expected : Nat)
  | outOfBounds (size index : Nat)
  /-- A buffer would be larger than the address space. -/
  | capacity
deriving DecidableEq, Repr

/-- Why the descriptions of source, operator and destination do not fit together. -/
inductive ShapeProblem where
  | batchOrChannels (sourceBatch sourceChannels destinationBatch destinationChannels : Nat)
  | noChannels
  | emptySource (extent : Spatial)
  | degenerateWindow (kernel stride : Spatial)
  | widePadding (before after kernel : Spatial)
  | destinationExtent (given expected : Spatial)
deriving DecidableEq, Repr

inductive OptionProblem where
  | unknownInstructionSet (text : String)
  | notANumber (text : String)
  | unrollOutOfRange (unroll : Nat)
deriving DecidableEq, Repr

/-- Why a request is not met. -/
inductive Refusal where
  | unavailable (set : InstructionSet)
  | noInstructionSet
  | unknownAlgorithm (text : String)
  | unsupportedTypes (algorithm : Algorithm) (source destination : DataType)
  | shape (problem : ShapeProblem)
  | option (problem : OptionProblem)
deriving DecidableEq, Repr

/-- Everything that can stand in the place of a result. -/
inductive Failure where
  | refused (refusal : Refusal)
  | faulted (fault : Fault)
deriving DecidableEq, Repr

private def comparison (left right : String) : String :=
  "\n  left: " ++ left ++ "\n right: " ++ right

def Fault.message : Fault → String
  | overflow operation => "attempt to " ++ operation.name ++ " with overflow"
  | emptyWindow => "assertion failed: window.kh_range > 0 && window.kw_range > 0"
  | blockMismatch routine plan =>
      "assertion `left == right` failed" ++ comparison (toString routine) (toString plan)
  | bufferSize side expected given =>
      "assertion `left == right` failed: " ++ side.name ++ " buffer size mismatch: expected " ++
        toString expected ++ " bytes, got " ++ toString given ++
        comparison (toString given) (toString expected)
  | elementType side kernel given =>
      "assertion `left == right` failed: kernel " ++ side.name ++ " type mismatch" ++
        comparison kernel.tag given.tag
  | sourceLength given expected =>
      "assertion `left == right` failed: source length mismatch" ++
        comparison (toString given) (toString expected)
  | outOfBounds size index =>
      "index out of bounds: the len is " ++ toString size ++ " but the index is " ++ toString index
  | capacity => "capacity overflow"

def ShapeProblem.message : ShapeProblem → String
  | batchOrChannels sourceBatch sourceChannels destinationBatch destinationChannels =>
      s!"batch/channels differ: src [{sourceBatch}, {sourceChannels}], " ++
        s!"dst [{destinationBatch}, {destinationChannels}]"
  | noChannels => "channel count is zero"
  | emptySource extent => "source spatial dims " ++ extent.text ++ " must be non-zero"
  | degenerateWindow kernel stride =>
      "kernel " ++ kernel.text ++ " and strides " ++ stride.text ++ " must be non-zero"
  | widePadding before after kernel =>
      "padding tl " ++ before.text ++ " br " ++ after.text ++ " must be smaller than kernel " ++
        kernel.text
  | destinationExtent given expected =>
      "dst spatial dims " ++ given.text ++ " do not match expected " ++ expected.text

def OptionProblem.message : OptionProblem → String
  | unknownInstructionSet text =>
      Options.instructionSetVariable ++ ": unknown instruction set '" ++ text ++ "'"
  | notANumber text => Options.unrollVariable ++ ": not a number: '" ++ text ++ "'"
  | unrollOutOfRange unroll =>
      "unroll must be in 1..=" ++ toString Options.maxUnroll ++ ", got " ++ toString unroll

def Refusal.message : Refusal → String
  | unavailable set =>
      "Unsupported instruction set: " ++ set.label ++ " is not available on this host"
  | noInstructionSet =>
      "Unsupported instruction set: no pooling instruction set available on this host"
  | unknownAlgorithm text => "Unsupported algorithm: " ++ text
  | unsupportedTypes algorithm source destination =>
      "Unsupported data type for " ++ algorithm.name ++ ": src=" ++ source.name ++ ", dst=" ++
        destination.name
  | shape problem => "Invalid shape: " ++ problem.message
  | option problem => "Invalid option: " ++ problem.message

def Failure.message : Failure → String
  | refused refusal => refusal.message
  | faulted fault => fault.message

end IntegerPooling
