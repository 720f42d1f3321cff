import IntegerPooling.Proofs.Buffer
import IntegerPooling.Proofs.Kernel.Call

/-!
# The output of one pixel

When the call for a pixel is made, every load of its routine succeeds, so the pixel writes one
element for each channel: the reduction of the elements in its window, in the order of the window
(`pixelWrites_eq_ok`). What is written at a place is a function of the source and of that place
alone (`outputAt`), which is what makes the order of the pixels irrelevant.
-/

namespace IntegerPooling

namespace DataPath

/-- The reduction of a list of elements along a data path. -/
def reduce (path : DataPath) (elements : List (Element path.source)) (factor : Binary32) :
    Element path.destination :=
  match path with
  | maximum t => (Reduction.maximum t).reduce elements factor
  | average source destination => (Reduction.average source destination).reduce elements factor

theorem run_eq_ok {path : DataPath} {geometry : Geometry} {width : Nat} {task : Task}
    {load : Nat → Except Fault (Element path.source)} {value : Nat → Element path.source}
    (loads : ∀ place ∈ geometry.footprint task, load place = .ok (value place)) :
    path.run geometry width task load =
      .ok ((List.range geometry.channels).map fun channel =>
        (channel, path.reduce ((geometry.taps task).map fun tap => value (tap + channel))
          task.factor)) := by
  cases path with
  | maximum t => exact Reduction.run_eq_ok loads
  | average source destination => exact Reduction.run_eq_ok loads

theorem run_congr {path : DataPath} {geometry : Geometry} {width : Nat} {task : Task}
    {load other : Nat → Except Fault (Element path.source)}
    (same : ∀ place ∈ geometry.footprint task, load place = other place) :
    path.run geometry width task load = path.run geometry width task other := by
  cases path with
  | maximum t => exact Reduction.run_congr same
  | average source destination => exact Reduction.run_congr same

end DataPath

def Plan.pixelPlaces (plan : Plan) (pixel : Pixel) : List Nat :=
  (List.range plan.channels).map fun channel =>
    plan.destinationLayout.place pixel.image channel pixel.row pixel.column

theorem Plan.lt_count_of_mem_pixelPlaces {plan : Plan} {pixel : Pixel} {place : Nat}
    (within : pixel.Within plan.batch plan.output.height plan.output.width)
    (placeMem : place ∈ plan.pixelPlaces pixel) : place < plan.destinationLayout.count := by
  rcases List.mem_map.mp placeMem with ⟨channel, channelMem, rfl⟩
  rcases within with ⟨imageLt, rowLt, columnLt⟩
  exact Layout.place_lt_count ⟨imageLt, List.mem_range.mp channelMem, rowLt, columnLt⟩

namespace Kernel

variable {kernel : Kernel}

def outputElement (kernel : Kernel) (elements : List (Element kernel.routine.path.source))
    (pixel : Pixel) (channel : Nat) : Element kernel.routine.path.destination :=
  kernel.routine.path.reduce
    ((kernel.plan.windowPlaces pixel channel).map fun place =>
      elements.getD place (Element.lowest _))
    (kernel.plan.taskFor pixel).factor

/-- The output element at a place of the destination. -/
def outputAt (kernel : Kernel) (elements : List (Element kernel.routine.path.source))
    (place : Nat) : Element kernel.routine.path.destination :=
  kernel.outputElement elements
    (Traversal.pixelOfNumber (kernel.plan.output.height * kernel.plan.output.width)
      kernel.plan.output.width (place / kernel.plan.channels))
    (place % kernel.plan.channels)

theorem outputAt_place (elements : List (Element kernel.routine.path.source)) {pixel : Pixel}
    {channel : Nat} (rowLt : pixel.row < kernel.plan.output.height)
    (columnLt : pixel.column < kernel.plan.output.width)
    (channelLt : channel < kernel.plan.channels) :
    kernel.outputAt elements
        (kernel.plan.destinationLayout.place pixel.image channel pixel.row pixel.column) =
      kernel.outputElement elements pixel channel := by
  have number := Layout.place_eq_number kernel.plan.destinationLayout pixel channel
  rw [outputAt, number]
  simp only [Plan.destinationLayout]
  rw [Sequence.number_div _ channelLt, Sequence.number_mod _ channelLt,
    Traversal.pixelOfNumber_number rowLt columnLt]

theorem load_of_mem_footprint (fits : Routine.Fits kernel.plan kernel.routine)
    {elements : List (Element kernel.routine.path.source)}
    (whole : elements.length = kernel.plan.sourceLayout.count) {pixel : Pixel}
    (imageLt : pixel.image < kernel.plan.batch) (callable : kernel.plan.Callable pixel)
    {place : Nat} (placeMem : place ∈ kernel.plan.geometry.footprint (kernel.plan.taskFor pixel)) :
    Buffer.load kernel.routine.path.source (Buffer.ofElements elements)
        ((kernel.plan.callFor pixel).sourceAddress + place * kernel.routine.path.source.size) =
      .ok (elements.getD (kernel.plan.firstPlace pixel + place) (Element.lowest _)) := by
  rcases Plan.contains_of_mem_footprint callable imageLt placeMem with
    ⟨channel, row, column, contained, placeEq⟩
  have placeLt : kernel.plan.firstPlace pixel + place < elements.length := by
    rw [whole, placeEq]
    exact Layout.place_lt_count contained
  have address : (kernel.plan.callFor pixel).sourceAddress +
      place * kernel.routine.path.source.size =
        (kernel.plan.firstPlace pixel + place) * kernel.routine.path.source.size := by
    rw [Plan.callFor, fits.size_source, Nat.add_mul]
  rw [address, Buffer.load_ofElements placeLt, List.getD_eq_getElem?_getD,
    List.getElem?_eq_getElem placeLt, Option.getD_some]

/-- A pixel writes the reduction of its window for every channel. -/
theorem pixelWrites_eq_ok (fits : Routine.Fits kernel.plan kernel.routine)
    {elements : List (Element kernel.routine.path.source)}
    (whole : elements.length = kernel.plan.sourceLayout.count) {pixel : Pixel}
    (imageLt : pixel.image < kernel.plan.batch) {call : Call}
    (made : kernel.plan.call pixel = .ok call) :
    kernel.pixelWrites (Buffer.ofElements elements) pixel =
      .ok ((List.range kernel.plan.channels).map fun channel =>
        (kernel.plan.destinationLayout.place pixel.image channel pixel.row pixel.column *
          kernel.routine.path.destination.size, kernel.outputElement elements pixel channel)) := by
  have callable := Plan.callable_of_call made
  have callEq := Plan.eq_callFor_of_call made
  subst callEq
  have results : kernel.routine.run (kernel.plan.callFor pixel).task
      (fun index => Buffer.load kernel.routine.path.source (Buffer.ofElements elements)
        ((kernel.plan.callFor pixel).sourceAddress + index * kernel.routine.path.source.size)) =
      .ok ((List.range kernel.plan.channels).map fun channel =>
        (channel, kernel.outputElement elements pixel channel)) := by
    have loads := fun place placeMem =>
      @load_of_mem_footprint kernel fits elements whole pixel imageLt callable place placeMem
    rw [Routine.run, fits.geometry_eq]
    refine (DataPath.run_eq_ok loads).trans ?_
    congr 1
    apply List.map_congr_left
    intro channel _
    rw [outputElement, ← Plan.map_taps, List.map_map]
    rfl
  rw [pixelWrites, made, Outcome.ok_bind, results, Outcome.ok_bind, List.map_map]
  change Except.ok _ = _
  congr 1
  apply List.map_congr_left
  intro channel _
  simp only [Function.comp_apply, Plan.callFor, fits.size_destination]
  rw [Layout.place_eq_add _ _ channel, Nat.add_mul]

theorem pixelWrites_eq_outputAt (fits : Routine.Fits kernel.plan kernel.routine)
    {elements : List (Element kernel.routine.path.source)}
    (whole : elements.length = kernel.plan.sourceLayout.count) {pixel : Pixel}
    (within : pixel.Within kernel.plan.batch kernel.plan.output.height kernel.plan.output.width)
    {call : Call} (made : kernel.plan.call pixel = .ok call) :
    kernel.pixelWrites (Buffer.ofElements elements) pixel =
      .ok ((kernel.plan.pixelPlaces pixel).map fun place =>
        (place * kernel.routine.path.destination.size, kernel.outputAt elements place)) := by
  rcases within with ⟨imageLt, rowLt, columnLt⟩
  rw [pixelWrites_eq_ok fits whole imageLt made, Plan.pixelPlaces, List.map_map]
  congr 1
  apply List.map_congr_left
  intro channel channelMem
  simp only [Function.comp_apply]
  rw [outputAt_place elements rowLt columnLt (List.mem_range.mp channelMem)]

/-- Handling a pixel sets its own places and keeps all others. -/
theorem runPixel_eq_ok (fits : Routine.Fits kernel.plan kernel.routine)
    {elements : List (Element kernel.routine.path.source)}
    (whole : elements.length = kernel.plan.sourceLayout.count)
    {current : List (Element kernel.routine.path.destination)}
    (currentWhole : current.length = kernel.plan.destinationLayout.count) {pixel : Pixel}
    (within : pixel.Within kernel.plan.batch kernel.plan.output.height kernel.plan.output.width)
    {call : Call} (made : kernel.plan.call pixel = .ok call) :
    kernel.runPixel (Buffer.ofElements elements) (Buffer.ofElements current) pixel =
      .ok (Buffer.ofElements
        (Buffer.overwrite (kernel.outputAt elements) current (kernel.plan.pixelPlaces pixel))) := by
  rw [runPixel, pixelWrites_eq_outputAt fits whole within made, Outcome.ok_bind]
  apply Buffer.storeAll_ofElements
  intro place placeMem
  rw [currentWhole]
  exact Plan.lt_count_of_mem_pixelPlaces within placeMem

theorem runPixel_of_call_eq_error {source destination : Buffer} {pixel : Pixel} {fault : Fault}
    (refused : kernel.plan.call pixel = .error fault) :
    kernel.runPixel source destination pixel = .error fault := by
  rw [runPixel, pixelWrites, refused]
  rfl

end Kernel

end IntegerPooling
