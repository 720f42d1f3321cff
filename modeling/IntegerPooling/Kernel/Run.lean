import IntegerPooling.Buffer
import IntegerPooling.Kernel.Basic
import IntegerPooling.Traversal

/-!
# Running a kernel

A run checks the sizes of its two buffers and then handles every output pixel: it finds the window
of the pixel, hands the routine the address of the first input element and stores what comes back
at the address of the pixel. The elements that a pixel writes depend on the source alone
(`pixelWrites` does not see the destination).
-/

namespace IntegerPooling

/-- What a routine needs to handle one output pixel. -/
structure Call where
  sourceAddress : Nat
  destinationAddress : Nat
  task : Task
deriving DecidableEq, Repr

/-- The call for an output pixel; its window must have a position inside the input. -/
def Plan.call (plan : Plan) (pixel : Pixel) : Except Fault Call := do
  let window ← plan.window pixel.row pixel.column
  if window.rows.count = 0 ∨ window.columns.count = 0 then
    throw .emptyWindow
  let first ← plan.sourceLayout.offset pixel.image 0 window.rows.start window.columns.start
  let sourceAddress ← Size.mul first plan.source.size
  let place ← plan.destinationLayout.offset pixel.image 0 pixel.row pixel.column
  let destinationAddress ← Size.mul place plan.destination.size
  let factor ← plan.factor window
  return ⟨sourceAddress, destinationAddress, ⟨window.rows.count, window.columns.count, factor⟩⟩

def Layout.checkBuffer (layout : Layout) (side : Side) (buffer : Buffer) : Except Fault Unit := do
  let expected ← layout.byteSize
  if buffer.size = expected then return () else throw (.bufferSize side expected buffer.size)

namespace Kernel

/-- The elements that an output pixel writes, with their byte addresses. -/
def pixelWrites (kernel : Kernel) (source : Buffer) (pixel : Pixel) :
    Except Fault (List (Nat × Element kernel.routine.path.destination)) := do
  let call ← kernel.plan.call pixel
  let results ← kernel.routine.run call.task fun index =>
    Buffer.load kernel.routine.path.source source
      (call.sourceAddress + index * kernel.routine.path.source.size)
  return results.map fun result =>
    (call.destinationAddress + result.1 * kernel.routine.path.destination.size, result.2)

def runPixel (kernel : Kernel) (source destination : Buffer) (pixel : Pixel) :
    Except Fault Buffer := do
  Buffer.storeAll destination (← kernel.pixelWrites source pixel)

def execute (kernel : Kernel) (traversal : Traversal) (source destination : Buffer) :
    Except Fault Buffer := do
  kernel.sourceLayout.checkBuffer .source source
  kernel.destinationLayout.checkBuffer .destination destination
  let pixels ← traversal.order kernel.plan.batch kernel.plan.output.height kernel.plan.output.width
  pixels.foldlM (kernel.runPixel source) destination

def run (kernel : Kernel) (traversal : Traversal) (source destination : Buffer) :
    Journaled (Except Fault Buffer) :=
  ⟨kernel.execute traversal source destination, [.pooling kernel.plan]⟩

/-- Runs on lists of elements, which must have the types of the kernel. -/
def runElements {s d : ElementType} (kernel : Kernel) (traversal : Traversal)
    (source : List (Element s)) (destination : List (Element d)) :
    Journaled (Except Fault (List (Element d))) :=
  if kernel.plan.source ≠ s.dataType then
    ⟨.error (.elementType .source kernel.plan.source s.dataType), []⟩
  else if kernel.plan.destination ≠ d.dataType then
    ⟨.error (.elementType .destination kernel.plan.destination d.dataType), []⟩
  else
    let result := kernel.run traversal (Buffer.ofElements source) (Buffer.ofElements destination)
    ⟨result.outcome.map (Buffer.toElements d), result.notices⟩

end Kernel

end IntegerPooling
