import IntegerPooling.Proofs.Kernel.Execution

/-!
# Runs in any order

The bytes of a destination are divided among its pixels: each byte lies in the range of exactly
one (`tiled_of_byteSize`). A pixel writes all of its range and nothing else, and what it writes
depends on the source alone. So it makes no difference in which order the pixels are visited, or
what the destination held before (`execute_order_irrelevant`).
-/

namespace IntegerPooling

namespace Layout

/-- Whether a byte lies in the range of a pixel, which begins at its first channel. -/
def PixelByte (layout : Layout) (pixel : Pixel) (address : Nat) : Prop :=
  ∃ first, layout.offset pixel.image 0 pixel.row pixel.column = .ok first ∧
    first * layout.dataType.size ≤ address ∧
    address < first * layout.dataType.size + layout.channels * layout.dataType.size

/-- That every pixel has a range of bytes and the ranges divide a number of bytes among them. -/
structure Tiled (layout : Layout) (bytes : Nat) : Prop where
  placed : ∀ pixel : Pixel, pixel.Within layout.batch layout.extent.height layout.extent.width →
    ∃ first, layout.offset pixel.image 0 pixel.row pixel.column = .ok first
  disjoint : ∀ pixel other : Pixel,
    pixel.Within layout.batch layout.extent.height layout.extent.width →
    other.Within layout.batch layout.extent.height layout.extent.width → pixel ≠ other →
    ∀ address, layout.PixelByte pixel address → ¬layout.PixelByte other address
  covers : ∀ address, address < bytes ↔
    ∃ pixel : Pixel, pixel.Within layout.batch layout.extent.height layout.extent.width ∧
      layout.PixelByte pixel address

/-- The bytes of a pixel. -/
def pixelSize (layout : Layout) : Nat :=
  layout.channels * layout.dataType.size

/-- A byte lies in the range of a pixel when counting whole pixels leads to the number of it. -/
theorem pixelByte_iff {layout : Layout} {pixel : Pixel} {first : Nat}
    (computed : layout.offset pixel.image 0 pixel.row pixel.column = .ok first) (address : Nat) :
    layout.PixelByte pixel address ↔
      0 < layout.pixelSize ∧
        address / layout.pixelSize = pixel.number layout.extent.height layout.extent.width := by
  have firstEq : first * layout.dataType.size =
      pixel.number layout.extent.height layout.extent.width * layout.pixelSize := by
    rw [eq_place_of_offset computed, place_eq_number, Nat.add_zero, Nat.mul_assoc, pixelSize]
  have range : layout.PixelByte pixel address ↔
      first * layout.dataType.size ≤ address ∧
        address < first * layout.dataType.size + layout.pixelSize := by
    constructor
    · rintro ⟨other, same, bounds⟩
      rw [computed] at same
      cases same
      exact bounds
    · intro bounds
      exact ⟨first, computed, bounds⟩
  rw [range, firstEq]
  constructor
  · rintro ⟨lower, upper⟩
    have sizePos : 0 < layout.pixelSize := by omega
    refine ⟨sizePos, (Nat.div_eq_iff sizePos).mpr ?_⟩
    omega
  · rintro ⟨sizePos, quotient⟩
    have bounds := (Nat.div_eq_iff sizePos).mp quotient
    omega

theorem tiled_of_byteSize {layout : Layout} {bytes : Nat} (sized : layout.byteSize = .ok bytes)
    (placed : ∀ pixel : Pixel,
      pixel.Within layout.batch layout.extent.height layout.extent.width →
        ∃ first, layout.offset pixel.image 0 pixel.row pixel.column = .ok first) :
    layout.Tiled bytes := by
  have bytesEq : bytes =
      layout.batch * (layout.extent.height * layout.extent.width) * layout.pixelSize := by
    rw [(byteSize_eq_ok_iff.mp sized).2, count_eq, pixelSize, Nat.mul_assoc]
  refine ⟨placed, ?_, ?_⟩
  · intro pixel other pixelWithin otherWithin different address inPixel inOther
    rcases placed pixel pixelWithin with ⟨first, computed⟩
    rcases placed other otherWithin with ⟨otherFirst, otherComputed⟩
    have number := ((pixelByte_iff computed address).mp inPixel).2
    have otherNumber := ((pixelByte_iff otherComputed address).mp inOther).2
    apply different
    rw [← Traversal.pixelOfNumber_number pixelWithin.2.1 pixelWithin.2.2, ← number, otherNumber,
      Traversal.pixelOfNumber_number otherWithin.2.1 otherWithin.2.2]
  · intro address
    constructor
    · intro addressLt
      rw [bytesEq] at addressLt
      have sizePos : 0 < layout.pixelSize :=
        Nat.pos_of_mul_pos_left (Nat.zero_lt_of_lt addressLt)
      have within := Traversal.within_pixelOfNumber
        ((Nat.div_lt_iff_lt_mul sizePos).mpr addressLt)
      rcases placed _ within with ⟨first, computed⟩
      refine ⟨_, within, (pixelByte_iff computed address).mpr ⟨sizePos, ?_⟩⟩
      rw [Traversal.number_pixelOfNumber]
    · rintro ⟨pixel, within, inPixel⟩
      rcases placed pixel within with ⟨first, computed⟩
      rcases (pixelByte_iff computed address).mp inPixel with ⟨sizePos, number⟩
      rw [bytesEq, ← Nat.div_lt_iff_lt_mul sizePos, number]
      exact Traversal.number_lt within

end Layout

namespace Kernel

variable {kernel : Kernel}

theorem call_of_runPixel_eq_ok {source destination result : Buffer} {pixel : Pixel}
    (ran : kernel.runPixel source destination pixel = .ok result) :
    ∃ call, kernel.plan.call pixel = .ok call := by
  cases made : kernel.plan.call pixel with
  | error fault =>
    rw [runPixel_of_call_eq_error made] at ran
    cases ran
  | ok call => exact ⟨call, rfl⟩

/-- Visiting every pixel once leads from any destination to the output elements. -/
theorem execute_of_visitsOnce (fits : Routine.Fits kernel.plan kernel.routine)
    {elements : List (Element kernel.routine.path.source)}
    (sourceSized : kernel.plan.sourceLayout.byteSize = .ok (Buffer.ofElements elements).size)
    (made : ∀ pixel ∈ kernel.pixels, ∃ call, kernel.plan.call pixel = .ok call)
    {traversal : Traversal}
    (visits : traversal.VisitsOnce kernel.plan.batch kernel.plan.output.height
      kernel.plan.output.width)
    {destination : Buffer}
    (destinationSized : kernel.plan.destinationLayout.byteSize = .ok destination.size) :
    kernel.execute traversal (Buffer.ofElements elements) destination =
      .ok (Buffer.ofElements ((List.range kernel.plan.destinationLayout.count).map
        (kernel.outputAt elements))) := by
  rcases visits with ⟨visited, ordered, _, complete⟩
  rcases Buffer.exists_elements destinationSized fits.chosen.destination_eq with
    ⟨current, rfl, currentWhole⟩
  have whole := Layout.length_of_byteSize sourceSized fits.chosen.source_eq
  have completePixels : ∀ pixel, pixel ∈ visited ↔ pixel ∈ kernel.pixels := by
    intro pixel
    rw [complete pixel, mem_pixels]
  rw [execute, sourceLayout, destinationLayout, checkBuffer_of_sized .source sourceSized,
    checkBuffer_of_sized .destination destinationSized, ordered]
  exact foldlM_visited_eq_ok fits whole completePixels made currentWhole

/-- When no pixel stops a run, all runs over right-sized buffers that visit every pixel once leave
the same bytes, whatever the order and whatever the destination held, and every byte of the
destination belongs to exactly one pixel. A routine stands for its loops as far as the unrolling of
the plan is 1 to 4 (`Reduction.sweeps_iff`). -/
theorem execute_order_irrelevant (emitted : Routine.ofPlan kernel.plan = .ok kernel.routine)
    {source destination : Buffer}
    (sourceSized : kernel.plan.sourceLayout.byteSize = .ok source.size)
    (destinationSized : kernel.plan.destinationLayout.byteSize = .ok destination.size)
    (runs : ∀ pixel : Pixel,
      pixel.Within kernel.plan.batch kernel.plan.output.height kernel.plan.output.width →
        ∃ result, kernel.runPixel source destination pixel = .ok result) :
    (∃ result : Buffer, result.size = destination.size ∧
      ∀ (traversal : Traversal) (other : Buffer),
        traversal.VisitsOnce kernel.plan.batch kernel.plan.output.height
            kernel.plan.output.width →
          other.size = destination.size →
            kernel.execute traversal source other = .ok result) ∧
      kernel.plan.destinationLayout.Tiled destination.size := by
  have fits := Routine.fits_of_ofPlan emitted
  have made : ∀ pixel ∈ kernel.pixels, ∃ call, kernel.plan.call pixel = .ok call := by
    intro pixel pixelMem
    rcases runs pixel (mem_pixels.mp pixelMem) with ⟨result, ran⟩
    exact call_of_runPixel_eq_ok ran
  rcases Buffer.exists_elements sourceSized fits.chosen.source_eq with ⟨elements, rfl, _⟩
  constructor
  · refine ⟨Buffer.ofElements ((List.range kernel.plan.destinationLayout.count).map
      (kernel.outputAt elements)), ?_, ?_⟩
    · rw [Buffer.size_ofElements, List.length_map, List.length_range, ← fits.size_destination]
      exact (Layout.byteSize_eq_ok_iff.mp destinationSized).2.symm
    · intro traversal other visits sameSize
      rw [← sameSize] at destinationSized
      exact execute_of_visitsOnce fits sourceSized made visits destinationSized
  · apply Layout.tiled_of_byteSize destinationSized
    intro pixel within
    rcases made pixel (mem_pixels.mpr within) with ⟨call, madeHere⟩
    exact ⟨_, (Plan.callable_of_call madeHere).destination_offset⟩

/-- A kernel put together by hand whose window stays where it is from one output row to the next. -/
def standingWindow : Kernel :=
  ⟨⟨.maximum, 1, 3, ⟨2, 2⟩, ⟨2, 1⟩, ⟨2, 2⟩, ⟨0, 1⟩, ⟨1, 0⟩, .u8, .u8, .narrow, 16, 1⟩,
    ⟨.maximum .u8, ⟨3, 6, 1⟩, 16, .narrow⟩⟩

/-- Forwards into zeros and backwards into other elements. -/
theorem execute_order_irrelevant_standingWindow :
    standingWindow.execute Traversal.rowMajor #[1, 2, 3, 4, 5, 6, 7, 8, 9, 10, 11, 12]
        #[0, 0, 0, 0, 0, 0] = .ok #[4, 5, 6, 4, 5, 6] ∧
      standingWindow.execute Traversal.reversed #[1, 2, 3, 4, 5, 6, 7, 8, 9, 10, 11, 12]
        #[1, 2, 3, 4, 5, 6] = .ok #[4, 5, 6, 4, 5, 6] := by
  have emitted : Routine.ofPlan standingWindow.plan = .ok standingWindow.routine := by cbv
  have first : standingWindow.runPixel #[1, 2, 3, 4, 5, 6, 7, 8, 9, 10, 11, 12]
      #[0, 0, 0, 0, 0, 0] ⟨0, 0, 0⟩ = .ok #[4, 5, 6, 0, 0, 0] := by rfl
  have second : standingWindow.runPixel #[1, 2, 3, 4, 5, 6, 7, 8, 9, 10, 11, 12]
      #[0, 0, 0, 0, 0, 0] ⟨0, 1, 0⟩ = .ok #[0, 0, 0, 4, 5, 6] := by rfl
  have runs : ∀ pixel : Pixel, pixel.Within 1 2 1 →
      ∃ result, standingWindow.runPixel #[1, 2, 3, 4, 5, 6, 7, 8, 9, 10, 11, 12]
        #[0, 0, 0, 0, 0, 0] pixel = .ok result := by
    intro pixel within
    have listed : pixel ∈ [Pixel.mk 0 0 0, Pixel.mk 0 1 0] :=
      Traversal.mem_rowMajorPixels.mpr within
    rcases List.mem_cons.mp listed with rfl | rest
    · exact ⟨_, first⟩
    · rcases List.mem_singleton.mp rest with rfl
      exact ⟨_, second⟩
  rcases (execute_order_irrelevant emitted rfl rfl runs).1 with ⟨result, _, same⟩
  have rowByRow := same _ #[0, 0, 0, 0, 0, 0] (Traversal.visitsOnce_rowMajor 1 2 1) rfl
  have computed : standingWindow.execute Traversal.rowMajor
      #[1, 2, 3, 4, 5, 6, 7, 8, 9, 10, 11, 12] #[0, 0, 0, 0, 0, 0] =
        .ok #[4, 5, 6, 4, 5, 6] := by rfl
  rw [computed] at rowByRow
  cases rowByRow
  exact ⟨computed, same _ _ (Traversal.visitsOnce_reversed 1 2 1) rfl⟩

end Kernel

end IntegerPooling
