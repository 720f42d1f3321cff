import IntegerPooling.Proofs.Kernel.Decision

/-!
# Tuning does not show

The instruction set of a plan, the width of its blocks and their number in a pass say how the
channels are worked through, not what is computed for them. Two plans that differ in nothing else
choose the same data path, refuse the same pixels and write the same elements for all others
(`runPixel_tuned`), so that their runs have the same outcome, result or fault (`execute_tuned`).
-/

namespace IntegerPooling

/-- The same plan with other choices of how its channels are worked through. -/
def Plan.tuned (plan : Plan) (set : InstructionSet) (block unroll : Nat) : Plan :=
  { plan with instructionSet := set, block := block, unroll := unroll }

/-- Tuning moves no window, no address and no factor. -/
@[simp] theorem Plan.call_tuned (plan : Plan) (set : InstructionSet) (block unroll : Nat)
    (pixel : Pixel) : (plan.tuned set block unroll).call pixel = plan.call pixel :=
  rfl

namespace Routine

/-- Tuning a plan does not change the reduction that is chosen for it. -/
theorem path_tuned {plan : Plan} {routine other : Routine} {set : InstructionSet}
    {block unroll : Nat} (emitted : ofPlan plan = .ok routine)
    (emittedOther : ofPlan (plan.tuned set block unroll) = .ok other) :
    other.path = routine.path := by
  rcases exists_row_of_ofPlan emitted with ⟨row, selected, _, rfl⟩
  rcases exists_row_of_ofPlan emittedOther with ⟨rowOther, selectedOther, _, rfl⟩
  have sameRow : rowOther = row := Option.some.inj (selectedOther.symm.trans selected)
  rw [sameRow]

end Routine

namespace Kernel

variable {plan : Plan} {routine other : Routine} {set : InstructionSet} {block unroll : Nat}

/-- A pixel is stored the same way under both plans. -/
theorem runPixel_tuned (emitted : Routine.ofPlan plan = .ok routine)
    (emittedOther : Routine.ofPlan (plan.tuned set block unroll) = .ok other) {source : Buffer}
    (sourceSized : plan.sourceLayout.byteSize = .ok source.size) {pixel : Pixel}
    (within : pixel.Within plan.batch plan.output.height plan.output.width)
    (destination : Buffer) :
    runPixel ⟨plan.tuned set block unroll, other⟩ source destination pixel =
      runPixel ⟨plan, routine⟩ source destination pixel := by
  have fits := Routine.fits_of_ofPlan emitted
  have fitsOther := Routine.fits_of_ofPlan emittedOther
  rcases Buffer.exists_elements sourceSized fits.chosen.source_eq with ⟨elements, rfl, whole⟩
  have samePath := Routine.path_tuned emitted emittedOther
  rcases routine with ⟨path, geometry, width, routineSet⟩
  rcases other with ⟨otherPath, otherGeometry, otherWidth, otherSet⟩
  simp only at samePath
  subst samePath
  cases made : plan.call pixel with
  | error fault =>
    have madeOther := (plan.call_tuned set block unroll pixel).trans made
    rw [@runPixel_of_call_eq_error ⟨plan.tuned set block unroll, _⟩ _ _ _ _ madeOther,
      @runPixel_of_call_eq_error ⟨plan, _⟩ _ _ _ _ made]
  | ok call =>
    have madeOther := (plan.call_tuned set block unroll pixel).trans made
    have writes := @pixelWrites_eq_ok ⟨plan, _⟩ fits elements whole pixel within.1 call made
    have writesOther :=
      @pixelWrites_eq_ok ⟨plan.tuned set block unroll, _⟩ fitsOther elements whole pixel within.1
        call madeOther
    rw [runPixel, runPixel, writes, writesOther]
    rfl

theorem foldlM_runPixel_tuned (emitted : Routine.ofPlan plan = .ok routine)
    (emittedOther : Routine.ofPlan (plan.tuned set block unroll) = .ok other) {source : Buffer}
    (sourceSized : plan.sourceLayout.byteSize = .ok source.size) {visited : List Pixel}
    (within : ∀ pixel ∈ visited,
      pixel.Within plan.batch plan.output.height plan.output.width) (destination : Buffer) :
    visited.foldlM (runPixel ⟨plan.tuned set block unroll, other⟩ source) destination =
      visited.foldlM (runPixel ⟨plan, routine⟩ source) destination := by
  apply Sequence.foldlM_congr (fun _ => True) trivial
  · intro current _ pixel pixelMem
    exact runPixel_tuned emitted emittedOther sourceSized (within pixel pixelMem) current
  · intros
    trivial

/-- Two plans that differ in their tuning alone, each with the routine that was made for it, run
with the same outcome over any two buffers: the same bytes or the same fault. A routine stands for
its loops as far as the unrolling of its plan is 1 to 4 (`Reduction.sweeps_iff`). -/
theorem execute_tuned (emitted : Routine.ofPlan plan = .ok routine)
    (emittedOther : Routine.ofPlan (plan.tuned set block unroll) = .ok other)
    (source destination : Buffer) :
    execute ⟨plan.tuned set block unroll, other⟩ Traversal.rowMajor source destination =
      execute ⟨plan, routine⟩ Traversal.rowMajor source destination := by
  rw [execute_rowMajor, execute_rowMajor]
  apply Outcome.bind_congr
  intro _ sourceChecked
  apply Outcome.bind_congr
  intro _ _
  exact foldlM_runPixel_tuned emitted emittedOther (Layout.byteSize_of_checkBuffer sourceChecked)
    (fun pixel => mem_pixels.mp) destination

/-- Seventeen channels are two wide blocks and a single channel, or four narrow blocks, three of
them in one pass, and a single channel. Every source byte is another one; ties go to even averages
and the last averages are negative for some channels. -/
theorem execute_tuned_seventeenChannels :
    let source : Buffer := ((List.range 153).map UInt8.ofNat).toArray
    let bytes : Buffer := #[
      0, 1, 2, 3, 4, 5, 6, 7, 8, 9, 10, 11, 12, 13, 14, 15, 16,
      26, 26, 28, 28, 30, 30, 32, 32, 34, 34, 36, 36, 38, 38, 40, 40, 42,
      76, 78, 78, 80, 80, 82, 82, 84, 84, 86, 86, 88, 88, 90, 90, 92, 92,
      38, 39, 40, 41, 42, 43, 44, 45, 46, 0, 0, 0, 0, 0, 0, 0, 0]
    execute
        ⟨⟨.averageExcludingPadding, 1, 17, ⟨3, 3⟩, ⟨2, 2⟩, ⟨2, 2⟩, ⟨2, 2⟩, ⟨1, 1⟩, .s8, .u8,
          .wide, 8, 1⟩, ⟨.average .s8 .u8, ⟨17, 51, 1⟩, 8, .wide⟩⟩
        Traversal.rowMajor source (Array.replicate 68 0) = .ok bytes ∧
      execute
        ⟨⟨.averageExcludingPadding, 1, 17, ⟨3, 3⟩, ⟨2, 2⟩, ⟨2, 2⟩, ⟨2, 2⟩, ⟨1, 1⟩, .s8, .u8,
          .narrow, 4, 3⟩, ⟨.average .s8 .u8, ⟨17, 51, 3⟩, 4, .narrow⟩⟩
        Traversal.rowMajor source (Array.replicate 68 0) = .ok bytes := by
  intro source bytes
  have emitted : Routine.ofPlan ⟨.averageExcludingPadding, 1, 17, ⟨3, 3⟩, ⟨2, 2⟩, ⟨2, 2⟩, ⟨2, 2⟩,
      ⟨1, 1⟩, .s8, .u8, .wide, 8, 1⟩ = .ok ⟨.average .s8 .u8, ⟨17, 51, 1⟩, 8, .wide⟩ := by cbv
  have emittedOther : Routine.ofPlan ⟨.averageExcludingPadding, 1, 17, ⟨3, 3⟩, ⟨2, 2⟩, ⟨2, 2⟩,
      ⟨2, 2⟩, ⟨1, 1⟩, .s8, .u8, .narrow, 4, 3⟩ =
        .ok ⟨.average .s8 .u8, ⟨17, 51, 3⟩, 4, .narrow⟩ := by cbv
  have ran : execute
      ⟨⟨.averageExcludingPadding, 1, 17, ⟨3, 3⟩, ⟨2, 2⟩, ⟨2, 2⟩, ⟨2, 2⟩, ⟨1, 1⟩, .s8, .u8, .wide, 8,
        1⟩, ⟨.average .s8 .u8, ⟨17, 51, 1⟩, 8, .wide⟩⟩
      Traversal.rowMajor source (Array.replicate 68 0) = .ok bytes := by
    subst source bytes
    decide +kernel
  exact ⟨ran, (execute_tuned emitted emittedOther source (Array.replicate 68 0)).trans ran⟩

end Kernel

end IntegerPooling
