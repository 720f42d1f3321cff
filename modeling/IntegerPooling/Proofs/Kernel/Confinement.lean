import IntegerPooling.Proofs.Kernel.Execution

/-!
# What a routine call touches

Routines are run on plans of any kind, also on plans that were put together by hand and never
checked. A call that is made for such a plan still stays where it belongs (`Confined`): it reads
elements of the image of its pixel and writes elements of its pixel. The reason is that the window
is clipped against the extent of the input before the addresses are computed and that a window
without a position stops the run. What is left to check is that both buffers have the sizes of
their layouts, which a run does first (`execution_confined`).
-/

namespace IntegerPooling

namespace Layout

/-- Whether an element of an image begins at an address. -/
def ImageAddress (layout : Layout) (image address : Nat) : Prop :=
  ∃ channel row column element, channel < layout.channels ∧ row < layout.extent.height ∧
    column < layout.extent.width ∧ layout.offset image channel row column = .ok element ∧
    address = element * layout.dataType.size

/-- Whether an element of a pixel begins at an address. -/
def PixelAddress (layout : Layout) (pixel : Pixel) (address : Nat) : Prop :=
  ∃ channel element, channel < layout.channels ∧
    layout.offset pixel.image channel pixel.row pixel.column = .ok element ∧
    address = element * layout.dataType.size

theorem PixelAddress.imageAddress {layout : Layout} {pixel : Pixel} {address : Nat}
    (owned : layout.PixelAddress pixel address)
    (within : pixel.Within layout.batch layout.extent.height layout.extent.width) :
    layout.ImageAddress pixel.image address := by
  rcases owned with ⟨channel, element, channelLt, computed, same⟩
  exact ⟨channel, pixel.row, pixel.column, element, channelLt, within.2.1, within.2.2, computed,
    same⟩

theorem imageAddress_of_contains {layout : Layout} {bytes image channel row column : Nat}
    (sized : layout.byteSize = .ok bytes) (contained : layout.Contains image channel row column) :
    layout.ImageAddress image
      (layout.place image channel row column * layout.dataType.size) :=
  ⟨channel, row, column, _, contained.channel_lt, contained.row_lt, contained.column_lt,
    offset_of_contains (count_lt_limit (byteSize_eq_ok_iff.mp sized).1) contained, rfl⟩

theorem pixelAddress_of_channel_lt {layout : Layout} {bytes channel : Nat} {pixel : Pixel}
    (sized : layout.byteSize = .ok bytes)
    (within : pixel.Within layout.batch layout.extent.height layout.extent.width)
    (channelLt : channel < layout.channels) :
    layout.PixelAddress pixel
      (layout.place pixel.image channel pixel.row pixel.column * layout.dataType.size) := by
  rcases within with ⟨imageLt, rowLt, columnLt⟩
  exact ⟨channel, _, channelLt, offset_of_contains (count_lt_limit (byteSize_eq_ok_iff.mp sized).1)
    ⟨imageLt, channelLt, rowLt, columnLt⟩, rfl⟩

theorem ImageAddress.inside {layout : Layout} {bytes image address : Nat}
    (reached : layout.ImageAddress image address) (sized : layout.byteSize = .ok bytes)
    (imageLt : image < layout.batch) : address + layout.dataType.size ≤ bytes := by
  rcases reached with ⟨channel, row, column, element, channelLt, rowLt, columnLt, computed, rfl⟩
  have placeEq := eq_place_of_offset computed
  have placeLt := place_lt_count ⟨imageLt, channelLt, rowLt, columnLt⟩
  rw [(byteSize_eq_ok_iff.mp sized).2, placeEq, ← Nat.succ_mul]
  exact Nat.mul_le_mul_right _ placeLt

end Layout

namespace Kernel

/-- That a call for a pixel reads elements of its image only, inside the source, and writes
elements of its own pixel only, inside a destination of a number of bytes. -/
structure Confined (kernel : Kernel) (source : Buffer) (bytes : Nat) (pixel : Pixel)
    (call : Call) : Prop where
  /-- Loads from other places than those of the image make no difference to the routine. -/
  reads : ∀ load other : Nat → Except Fault (Element kernel.routine.path.source),
    (∀ index, kernel.sourceLayout.ImageAddress pixel.image
      (call.sourceAddress + index * kernel.routine.path.source.size) → load index = other index) →
    kernel.routine.run call.task load = kernel.routine.run call.task other
  reads_inside : ∀ address, kernel.sourceLayout.ImageAddress pixel.image address →
    address + kernel.routine.path.source.size ≤ source.size
  writes : ∃ writes, kernel.pixelWrites source pixel = .ok writes ∧
    ∀ write ∈ writes, kernel.destinationLayout.PixelAddress pixel write.1 ∧
      write.1 + kernel.routine.path.destination.size ≤ bytes
  /-- Bytes that belong to no element of the pixel stay what they are. -/
  keeps : ∀ current : Buffer, current.size = bytes →
    ∃ result, kernel.runPixel source current pixel = .ok result ∧ result.size = bytes ∧
      ∀ address, (∀ start, kernel.destinationLayout.PixelAddress pixel start →
          address < start ∨ start + kernel.routine.path.destination.size ≤ address) →
        result[address]? = current[address]?

variable {kernel : Kernel}

/-- Every place of the footprint of a call is an element of the image of its pixel. -/
theorem imageAddress_of_mem_footprint (fits : Routine.Fits kernel.plan kernel.routine)
    {bytes : Nat} (sized : kernel.plan.sourceLayout.byteSize = .ok bytes) {pixel : Pixel}
    (imageLt : pixel.image < kernel.plan.batch) (callable : kernel.plan.Callable pixel)
    {place : Nat} (placeMem : place ∈ kernel.plan.geometry.footprint (kernel.plan.taskFor pixel)) :
    kernel.plan.sourceLayout.ImageAddress pixel.image
      ((kernel.plan.callFor pixel).sourceAddress + place * kernel.routine.path.source.size) := by
  rcases Plan.contains_of_mem_footprint callable imageLt placeMem with
    ⟨channel, row, column, contained, placeEq⟩
  have reached := Layout.imageAddress_of_contains sized contained
  rw [← placeEq, Nat.add_mul] at reached
  rw [← fits.size_source]
  exact reached

theorem exists_pixelWrites (fits : Routine.Fits kernel.plan kernel.routine) {source : Buffer}
    (sourceSized : kernel.sourceLayout.byteSize = .ok source.size) {bytes : Nat}
    (destinationSized : kernel.destinationLayout.byteSize = .ok bytes) {pixel : Pixel}
    (within : pixel.Within kernel.plan.batch kernel.plan.output.height kernel.plan.output.width)
    {call : Call} (made : kernel.plan.call pixel = .ok call) :
    ∃ writes, kernel.pixelWrites source pixel = .ok writes ∧
      ∀ write ∈ writes, kernel.destinationLayout.PixelAddress pixel write.1 ∧
        write.1 + kernel.routine.path.destination.size ≤ bytes := by
  rcases Buffer.exists_elements sourceSized fits.chosen.source_eq with ⟨elements, rfl, whole⟩
  refine ⟨_, pixelWrites_eq_ok fits whole within.1 made, ?_⟩
  intro write writeMem
  rcases List.mem_map.mp writeMem with ⟨channel, channelMem, rfl⟩
  have owned := Layout.pixelAddress_of_channel_lt destinationSized within
    (List.mem_range.mp channelMem)
  have inside := (owned.imageAddress within).inside destinationSized within.1
  rw [← fits.size_destination]
  exact ⟨owned, inside⟩

theorem confined_of_call (fits : Routine.Fits kernel.plan kernel.routine) {source : Buffer}
    (sourceSized : kernel.sourceLayout.byteSize = .ok source.size) {bytes : Nat}
    (destinationSized : kernel.destinationLayout.byteSize = .ok bytes) {pixel : Pixel}
    (within : pixel.Within kernel.plan.batch kernel.plan.output.height kernel.plan.output.width)
    {call : Call} (made : kernel.plan.call pixel = .ok call) :
    kernel.Confined source bytes pixel call := by
  have callable := Plan.callable_of_call made
  have callEq := Plan.eq_callFor_of_call made
  subst callEq
  have written := exists_pixelWrites fits sourceSized destinationSized within made
  refine ⟨?_, ?_, written, ?_⟩
  · intro load other same
    rw [Routine.run, Routine.run, fits.geometry_eq]
    apply DataPath.run_congr
    intro place placeMem
    exact same place
      (imageAddress_of_mem_footprint fits sourceSized within.1 callable placeMem)
  · intro address reached
    rw [← fits.size_source]
    exact reached.inside sourceSized within.1
  · intro current currentSize
    rcases written with ⟨writes, computed, owned⟩
    have inside : ∀ write ∈ writes,
        write.1 + kernel.routine.path.destination.size ≤ current.size := by
      intro write writeMem
      rw [currentSize]
      exact (owned write writeMem).2
    rcases Buffer.storeAll_inside inside with ⟨result, stored, sizeEq, kept⟩
    refine ⟨result, ?_, by rw [sizeEq, currentSize], ?_⟩
    · rw [runPixel, computed]
      exact stored
    · intro address outside
      apply kept
      intro write writeMem
      exact outside write.1 (owned write writeMem).1

theorem refused_or_confined (fits : Routine.Fits kernel.plan kernel.routine) {source : Buffer}
    (sourceSized : kernel.sourceLayout.byteSize = .ok source.size) {bytes : Nat}
    (destinationSized : kernel.destinationLayout.byteSize = .ok bytes) {pixel : Pixel}
    (within : pixel.Within kernel.plan.batch kernel.plan.output.height kernel.plan.output.width) :
    (∃ fault, kernel.plan.call pixel = .error fault) ∨
      ∃ call, kernel.plan.call pixel = .ok call ∧ kernel.Confined source bytes pixel call := by
  cases made : kernel.plan.call pixel with
  | error fault => exact Or.inl ⟨fault, rfl⟩
  | ok call =>
    exact Or.inr ⟨call, rfl, confined_of_call fits sourceSized destinationSized within made⟩

/-- A run over pixels of which each is refused or confined stops only where a call is refused. -/
theorem refused_of_foldlM_eq_error {source : Buffer} {bytes : Nat} {pixels : List Pixel}
    (each : ∀ pixel ∈ pixels, (∃ fault, kernel.plan.call pixel = .error fault) ∨
      ∃ call, kernel.plan.call pixel = .ok call ∧ kernel.Confined source bytes pixel call)
    {current : Buffer} (currentSize : current.size = bytes) {fault : Fault}
    (stopped : pixels.foldlM (kernel.runPixel source) current = .error fault) :
    ∃ pixel ∈ pixels, kernel.plan.call pixel = .error fault := by
  induction pixels generalizing current with
  | nil => cases stopped
  | cons pixel rest ih =>
    rw [List.foldlM_cons] at stopped
    rcases each pixel List.mem_cons_self with ⟨other, refused⟩ | ⟨call, _, confined⟩
    · rw [runPixel_of_call_eq_error refused] at stopped
      cases stopped
      exact ⟨pixel, List.mem_cons_self, refused⟩
    · rcases confined.keeps current currentSize with ⟨result, ran, resultSize, _⟩
      rw [ran] at stopped
      rcases ih (fun other otherMem => each other (List.mem_cons_of_mem _ otherMem)) resultSize
        stopped with ⟨found, foundMem, refused⟩
      exact ⟨found, List.mem_cons_of_mem _ foundMem, refused⟩

/-- For any plan with the routine that was made for it and any buffers of its sizes, each pixel is
either refused before the routine is called or confined to its own elements, and a run stops only
at a pixel that is refused. A routine stands for its loops as far as the unrolling of the plan is 1
to 4 (`Reduction.sweeps_iff`). -/
theorem execution_confined (emitted : Routine.ofPlan kernel.plan = .ok kernel.routine)
    {source destination : Buffer}
    (sourceSized : kernel.plan.sourceLayout.byteSize = .ok source.size)
    (destinationSized : kernel.plan.destinationLayout.byteSize = .ok destination.size) :
    (∀ pixel : Pixel,
      pixel.Within kernel.plan.batch kernel.plan.output.height kernel.plan.output.width →
        (∃ fault, kernel.plan.call pixel = .error fault ∧
          ∀ current, kernel.runPixel source current pixel = .error fault) ∨
        ∃ call, kernel.plan.call pixel = .ok call ∧
          kernel.Confined source destination.size pixel call) ∧
    ∀ fault, kernel.execute Traversal.rowMajor source destination = .error fault →
      ∃ pixel : Pixel,
        pixel.Within kernel.plan.batch kernel.plan.output.height kernel.plan.output.width ∧
          kernel.plan.call pixel = .error fault := by
  have fits := Routine.fits_of_ofPlan emitted
  constructor
  · intro pixel within
    rcases refused_or_confined fits sourceSized destinationSized within with
      ⟨fault, refused⟩ | confined
    · exact Or.inl ⟨fault, refused, fun current => runPixel_of_call_eq_error refused⟩
    · exact Or.inr confined
  · intro fault stopped
    have each : ∀ pixel ∈ kernel.pixels, (∃ fault, kernel.plan.call pixel = .error fault) ∨
        ∃ call, kernel.plan.call pixel = .ok call ∧
          kernel.Confined source destination.size pixel call := by
      intro pixel pixelMem
      exact refused_or_confined fits sourceSized destinationSized (mem_pixels.mp pixelMem)
    rw [execute_rowMajor, sourceLayout, destinationLayout,
      checkBuffer_of_sized .source sourceSized,
      checkBuffer_of_sized .destination destinationSized] at stopped
    rcases refused_of_foldlM_eq_error each rfl stopped with ⟨pixel, pixelMem, refused⟩
    exact ⟨pixel, mem_pixels.mp pixelMem, refused⟩

theorem execution_confined_standingWindow :
    let kernel : Kernel :=
      ⟨⟨.maximum, 1, 3, ⟨2, 2⟩, ⟨2, 1⟩, ⟨2, 2⟩, ⟨0, 1⟩, ⟨1, 0⟩, .u8, .u8, .narrow, 16, 1⟩,
        ⟨.maximum .u8, ⟨3, 6, 1⟩, 16, .narrow⟩⟩
    let source : Buffer := Array.replicate 12 0
    let destination : Buffer := Array.replicate 6 0
    (Routine.ofPlan kernel.plan = .ok kernel.routine ∧
      kernel.plan.sourceLayout.byteSize = .ok source.size ∧
      kernel.plan.destinationLayout.byteSize = .ok destination.size) ∧
    ∃ call, kernel.plan.call ⟨0, 1, 0⟩ = .ok call ∧
      kernel.Confined source destination.size ⟨0, 1, 0⟩ call := by
  intro kernel source destination
  have emitted : Routine.ofPlan kernel.plan = .ok kernel.routine := by cbv
  have sourceSized : kernel.plan.sourceLayout.byteSize = .ok source.size := by rfl
  have destinationSized : kernel.plan.destinationLayout.byteSize = .ok destination.size := by rfl
  refine ⟨⟨emitted, sourceSized, destinationSized⟩, ?_⟩
  rcases (execution_confined emitted sourceSized destinationSized).1 ⟨0, 1, 0⟩ (by decide) with
    ⟨fault, refused, _⟩ | confined
  · cases refused
  · exact confined

end Kernel

end IntegerPooling
