import IntegerPooling.Options.Environment
import IntegerPooling.Plan

/-!
# Planning an operator

An operator, the layouts of its source and destination, a host and the options give a plan or the
first reason against one. The reasons are tried in a fixed order: the instruction set, the data
types, the shapes, the options.
-/

namespace IntegerPooling

def Preference.select (preference : Preference) (host : Capabilities) :
    Except Refusal InstructionSet :=
  match preference with
  | .force set => if host.available set then .ok set else .error (.unavailable set)
  | .auto =>
    match host.best? with
    | some set => .ok set
    | none => .error .noInstructionSet

/-- Whether an algorithm can turn one data type into another: a maximum keeps its type, an average
may change it. -/
def Algorithm.supports (algorithm : Algorithm) (source destination : DataType) : Bool :=
  source.isPoolable && destination.isPoolable &&
    match algorithm with
    | .maximum => source = destination
    | .averageIncludingPadding => true
    | .averageExcludingPadding => true

namespace Operator

def checkTypes (operator : Operator) (source destination : DataType) : Except Refusal Unit :=
  if operator.algorithm.supports source destination then .ok ()
  else .error (.unsupportedTypes operator.algorithm source destination)

/-- The first reason, other than the extent of the output, why an operator does not fit between
two layouts. -/
def shapeProblem? (operator : Operator) (source destination : Layout) : Option ShapeProblem :=
  if source.batch ≠ destination.batch ∨ source.channels ≠ destination.channels then
    some (.batchOrChannels source.batch source.channels destination.batch destination.channels)
  else if source.channels = 0 then
    some .noChannels
  else if source.extent.height = 0 ∨ source.extent.width = 0 then
    some (.emptySource source.extent)
  else if operator.kernel.height = 0 ∨ operator.kernel.width = 0 ∨
      operator.stride.height = 0 ∨ operator.stride.width = 0 then
    some (.degenerateWindow operator.kernel operator.stride)
  else if operator.kernel.height ≤ operator.before.height ∨
      operator.kernel.height ≤ operator.after.height ∨
      operator.kernel.width ≤ operator.before.width ∨
      operator.kernel.width ≤ operator.after.width then
    some (.widePadding operator.before operator.after operator.kernel)
  else
    none

def checkShapes (operator : Operator) (source destination : Layout) : Except Failure Unit :=
  match operator.shapeProblem? source destination with
  | some problem => .error (.refused (.shape problem))
  | none =>
    match operator.outputExtent source.extent with
    | .error fault => .error (.faulted fault)
    | .ok expected =>
      if destination.extent = expected then .ok ()
      else .error (.refused (.shape (.destinationExtent destination.extent expected)))

def toPlan (operator : Operator) (source destination : Layout) (set : InstructionSet)
    (unroll : Nat) : Plan where
  algorithm := operator.algorithm
  batch := source.batch
  channels := source.channels
  input := source.extent
  output := destination.extent
  kernel := operator.kernel
  stride := operator.stride
  before := operator.before
  source := source.dataType
  destination := destination.dataType
  instructionSet := set
  block := set.blockWidth operator.algorithm source.dataType
  unroll := unroll

def plan (operator : Operator) (source destination : Layout) (host : Capabilities)
    (options : Options) : Except Failure Plan := do
  let set ← (options.instructionSet.select host).mapError .refused
  (operator.checkTypes source.dataType destination.dataType).mapError .refused
  operator.checkShapes source destination
  options.validate.mapError .refused
  return operator.toPlan source destination set options.unroll

end Operator

end IntegerPooling
