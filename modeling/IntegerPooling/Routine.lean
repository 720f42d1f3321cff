import IntegerPooling.Blocks
import IntegerPooling.Element.Bytes
import IntegerPooling.Plan

/-!
# Routines

A routine is a plan made ready to run on pixels: a reduction for its data types, the geometry of
its windows and the width of its blocks. The data types that have a routine are listed in a table
for each kind of reduction, row by row with the lane of the reduction. `DataPath.select?` finds the
row of a plan; the width of a block follows from the lane of that row, and has to be the one that
the plan was made with.
-/

namespace IntegerPooling

/-- The reductions with a routine, by their element types. -/
inductive DataPath where
  | maximum (t : ElementType)
  | average (source destination : ElementType)
deriving DecidableEq, Repr

namespace DataPath

def source : DataPath → ElementType
  | maximum t => t
  | average source _ => source

def destination : DataPath → ElementType
  | maximum t => t
  | average _ destination => destination

/-- A row of a table of routines: a data path and the bytes of one lane of its vectors. -/
structure Row where
  path : DataPath
  laneBytes : Nat
deriving DecidableEq, Repr

/-- The rows for a maximum, by the types of the source and the destination. -/
def maximumRow? : DataType → DataType → Option Row
  | .s8, .s8 => some ⟨maximum .s8, 1⟩
  | .u8, .u8 => some ⟨maximum .u8, 1⟩
  | .s32, .s32 => some ⟨maximum .s32, 4⟩
  | _, _ => none

/-- The rows for the two averages, by the types of the source and the destination. -/
def averageRow? : DataType → DataType → Option Row
  | .s8, .s8 => some ⟨average .s8 .s8, 4⟩
  | .s8, .u8 => some ⟨average .s8 .u8, 4⟩
  | .s8, .s32 => some ⟨average .s8 .s32, 4⟩
  | .u8, .s8 => some ⟨average .u8 .s8, 4⟩
  | .u8, .u8 => some ⟨average .u8 .u8, 4⟩
  | .u8, .s32 => some ⟨average .u8 .s32, 4⟩
  | .s32, .s8 => some ⟨average .s32 .s8, 4⟩
  | .s32, .u8 => some ⟨average .s32 .u8, 4⟩
  | .s32, .s32 => some ⟨average .s32 .s32, 4⟩
  | _, _ => none

def select? (algorithm : Algorithm) (source destination : DataType) : Option Row :=
  match algorithm with
  | .maximum => maximumRow? source destination
  | .averageIncludingPadding => averageRow? source destination
  | .averageExcludingPadding => averageRow? source destination

def run (path : DataPath) (geometry : Geometry) (width : Nat) (task : Task)
    (load : Nat → Except Fault (Element path.source)) :
    Except Fault (List (Nat × Element path.destination)) :=
  match path with
  | maximum t => (Reduction.maximum t).run geometry width task load
  | average source destination =>
    (Reduction.average source destination).run geometry width task load

end DataPath

/-- A data path with the geometry of its windows. -/
structure Routine where
  path : DataPath
  geometry : Geometry
  /-- The channels of one vector block. -/
  block : Nat
  instructionSet : InstructionSet
deriving DecidableEq, Repr

namespace Routine

def geometryOf (plan : Plan) : Except Fault Geometry := do
  return ⟨plan.channels, ← Size.mul plan.input.width plan.channels, plan.unroll⟩

def ofPlan (plan : Plan) : Except Failure Routine :=
  match DataPath.select? plan.algorithm plan.source plan.destination with
  | none => .error (.refused (.unsupportedTypes plan.algorithm plan.source plan.destination))
  | some row =>
    let block := plan.instructionSet.vectorBytes / row.laneBytes
    if block = plan.block then
      match geometryOf plan with
      | .ok geometry => .ok ⟨row.path, geometry, block, plan.instructionSet⟩
      | .error fault => .error (.faulted fault)
    else
      .error (.faulted (.blockMismatch block plan.block))

/-- Reduces a window for all channels; `load` gives the elements by their distance from the first
element of the window. -/
def run (routine : Routine) (task : Task)
    (load : Nat → Except Fault (Element routine.path.source)) :
    Except Fault (List (Nat × Element routine.path.destination)) :=
  routine.path.run routine.geometry routine.block task load

def description (routine : Routine) : String :=
  "PoolRoutine \x7b shape: RoutineShape \x7b channels: " ++ toString routine.geometry.channels ++
    ", row_stride: " ++ toString routine.geometry.rowStride ++
    ", unroll: " ++ toString routine.geometry.unroll ++
    " \x7d, block: " ++ toString routine.block ++
    ", isa: " ++ routine.instructionSet.tag ++ ", .. \x7d"

end Routine

end IntegerPooling
