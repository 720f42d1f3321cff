import IntegerPooling.Reduction
import IntegerPooling.Size

/-!
# Reducing a window block by block

All channels of one output pixel are reduced over the same window. They are handled in passes:
each `Pass` covers some neighbouring channels, arranged in blocks of equal width, and walks the
window once, loading one block after another at every tap and accumulating it lane by lane.

The passes of a routine come in three groups: passes of `unroll` blocks as long as they fit, then
passes of one block, then passes of one channel. Loads go through a function that may fault, so
that what a routine reads is part of what it computes.

The passes are listed at once where a machine finds them one after another in three loops, with four
rows of accumulators for the blocks of a pass. While the end of a pass fits a machine word, the two
are the same for an unrolling of 1 to 4, the range that options are checked against
(`Reduction.sweeps_iff`), and only there: with 0 blocks to a pass the first loop never ends, and from
5 on the blocks of a pass beyond the fourth have no accumulators and stay unwritten.
-/

namespace IntegerPooling

/-- The distances between the elements of a window and the arrangement of its channels. -/
structure Geometry where
  /-- The number of channels, which is also the distance between columns. -/
  channels : Nat
  rowStride : Nat
  /-- The blocks of one pass. -/
  unroll : Nat
deriving DecidableEq, Repr

/-- Neighbouring channels that are reduced together: `blocks` blocks of `width` channels each. -/
structure Pass where
  first : Nat
  width : Nat
  blocks : Nat
deriving DecidableEq, Repr

/-- The part of a window inside the input and the factor for its sum. -/
structure Task where
  rows : Nat
  columns : Nat
  factor : Binary32
deriving DecidableEq, Repr

namespace Pass

def size (pass : Pass) : Nat :=
  pass.blocks * pass.width

/-- The passes of one shape that fit one after another between two channels. -/
def fill (first last width blocks : Nat) : List Pass :=
  (List.range ((last - first) / (blocks * width))).map fun index =>
    ⟨first + index * (blocks * width), width, blocks⟩

/-- The first channel that `fill` leaves over. -/
def fillEnd (first last width blocks : Nat) : Nat :=
  first + (last - first) / (blocks * width) * (blocks * width)

end Pass

namespace Geometry

/-- The passes over all channels with blocks of a given width; those of the loops for an unrolling
of 1 to 4. An unrolling of 0, with which the loops do not end, has no unrolled pass here. -/
def passes (geometry : Geometry) (width : Nat) : List Pass :=
  let unrolledEnd := Pass.fillEnd 0 geometry.channels width geometry.unroll
  let blocksEnd := Pass.fillEnd unrolledEnd geometry.channels width 1
  Pass.fill 0 geometry.channels width geometry.unroll ++
    Pass.fill unrolledEnd geometry.channels width 1 ++
    Pass.fill blocksEnd geometry.channels 1 1

/-- The distances of the taps of a window from its first element, row by row. -/
def taps (geometry : Geometry) (task : Task) : List Nat :=
  (List.range task.rows).flatMap fun row =>
    (List.range task.columns).map fun column =>
      row * geometry.rowStride + column * geometry.channels

end Geometry

namespace Reduction

variable {α σ β : Type}

def loadBlock (load : Nat → Except Fault α) (address width : Nat) : Except Fault (List α) :=
  (List.range width).mapM fun lane => load (address + lane)

/-- Accumulates one tap into every block of a pass. -/
def visitTap (reduction : Reduction α σ β) (load : Nat → Except Fault α) (pass : Pass)
    (blocks : List (List σ)) (tap : Nat) : Except Fault (List (List σ)) :=
  blocks.zipIdx.mapM fun entry => do
    let elements ← loadBlock load (tap + (pass.first + entry.2 * pass.width)) pass.width
    return List.zipWith reduction.accumulate entry.1 elements

/-- Walks a window once for the channels of a pass; the results come with their channels. -/
def runPass (reduction : Reduction α σ β) (geometry : Geometry) (task : Task)
    (load : Nat → Except Fault α) (pass : Pass) : Except Fault (List (Nat × β)) := do
  let start := List.replicate pass.blocks (List.replicate pass.width reduction.initial)
  let blocks ← (geometry.taps task).foldlM (reduction.visitTap load pass) start
  return blocks.flatten.zipIdx.map fun lane =>
    (pass.first + lane.2, reduction.finish lane.1 task.factor)

/-- Reduces a window for all channels, with blocks of a given width. This is what the loops write
for an unrolling of 1 to 4. From 5 on it still writes all blocks, which the loops do not. -/
def run (reduction : Reduction α σ β) (geometry : Geometry) (width : Nat) (task : Task)
    (load : Nat → Except Fault α) : Except Fault (List (Nat × β)) := do
  return (← (geometry.passes width).mapM (reduction.runPass geometry task load)).flatten

end Reduction

end IntegerPooling
