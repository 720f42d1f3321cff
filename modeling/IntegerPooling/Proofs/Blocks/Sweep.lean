import IntegerPooling.Options.Basic
import IntegerPooling.Proofs.Blocks.Footprint
import IntegerPooling.Proofs.Outcome

/-!
# Sweeping over the channels

A routine on a machine keeps one cursor over its channels and moves it in three loops: by passes of
`unroll` blocks, by passes of one block and by passes of one channel. `Pass.Loop` is such a loop, as
a relation that only holds of loops that come to an end. Each of them takes the passes that
`Pass.fill` lists at once (`Pass.Loop.eq_fill`), so the three together take the passes of the
geometry (`Geometry.swept_iff`).

The accumulators of a pass stand in a fixed number of rows, of which only as many are used as the
pass has blocks. The others never reach a result (`Reduction.runPassWithin_eq`).
-/

namespace IntegerPooling

namespace Pass

/-- A loop that takes passes of one shape, starting at a cursor, as long as they end by `last`: the
passes it takes and the cursor it stops at. The end of a pass has to fit a machine word even if the
pass is not taken. -/
inductive Loop (last width blocks : Nat) : Nat → List Pass → Nat → Prop where
  | leave {cursor advance next : Nat} (sized : Size.mul blocks width = .ok advance)
      (ended : Size.add cursor advance = .ok next) (beyond : last < next) :
      Loop last width blocks cursor [] cursor
  | take {cursor advance next stop : Nat} {rest : List Pass}
      (sized : Size.mul blocks width = .ok advance) (ended : Size.add cursor advance = .ok next)
      (within : next ≤ last) (others : Loop last width blocks next rest stop) :
      Loop last width blocks cursor (⟨cursor, width, blocks⟩ :: rest) stop

section Loops

variable {last width blocks cursor : Nat}

theorem fill_of_lt (beyond : last < cursor + blocks * width) :
    fill cursor last width blocks = [] ∧ fillEnd cursor last width blocks = cursor := by
  have none : (last - cursor) / (blocks * width) = 0 := by
    rcases Nat.eq_zero_or_pos (blocks * width) with empty | positive
    · rw [empty, Nat.div_zero]
    · exact Nat.div_eq_of_lt (by omega)
  rw [fill, fillEnd, none]
  exact ⟨rfl, by omega⟩

theorem fill_of_le (positive : 0 < blocks * width) (within : cursor + blocks * width ≤ last) :
    fill cursor last width blocks =
        ⟨cursor, width, blocks⟩ :: fill (cursor + blocks * width) last width blocks ∧
      fillEnd cursor last width blocks = fillEnd (cursor + blocks * width) last width blocks := by
  have oneMore : (last - cursor) / (blocks * width) =
      (last - (cursor + blocks * width)) / (blocks * width) + 1 := by
    rw [Nat.div_eq_sub_div positive (by omega), Nat.sub_sub]
  constructor
  · rw [fill, fill, oneMore, List.range_succ_eq_map, List.map_cons, List.map_map, Nat.zero_mul,
      Nat.add_zero]
    congr 1
    apply List.map_congr_left
    intro index _
    simp only [Function.comp_apply, Nat.succ_mul]
    congr 1
    omega
  · rw [fillEnd, fillEnd, oneMore, Nat.succ_mul]
    omega

theorem blocks_of_mem_fill {pass : Pass} (passMem : pass ∈ fill cursor last width blocks) :
    pass.blocks = blocks := by
  rcases List.mem_map.mp passMem with ⟨_, _, rfl⟩
  rfl

/-- A loop that comes to an end takes the passes that fit. -/
theorem Loop.eq_fill {passes : List Pass} {stop : Nat}
    (loop : Loop last width blocks cursor passes stop) (ordered : cursor ≤ last) :
    0 < blocks * width ∧ passes = fill cursor last width blocks ∧
      stop = fillEnd cursor last width blocks := by
  induction loop with
  | leave sized ended beyond =>
    rcases Size.mul_eq_ok_iff.mp sized with ⟨rfl, _⟩
    rcases Size.add_eq_ok_iff.mp ended with ⟨rfl, _⟩
    rcases fill_of_lt beyond with ⟨passesEq, stopEq⟩
    exact ⟨by omega, passesEq.symm, stopEq.symm⟩
  | take sized ended within others ih =>
    rcases Size.mul_eq_ok_iff.mp sized with ⟨rfl, _⟩
    rcases Size.add_eq_ok_iff.mp ended with ⟨rfl, _⟩
    rcases ih within with ⟨positive, rfl, rfl⟩
    rcases fill_of_le positive within with ⟨passesEq, stopEq⟩
    exact ⟨positive, passesEq.symm, stopEq.symm⟩

/-- A loop whose passes are not empty comes to an end. -/
theorem loop_fill (positive : 0 < blocks * width) (ordered : cursor ≤ last)
    (room : last + blocks * width < Size.limit) :
    Loop last width blocks cursor (fill cursor last width blocks)
      (fillEnd cursor last width blocks) := by
  have sized : Size.mul blocks width = .ok (blocks * width) := Size.mul_of_lt (by omega)
  -- The distance of the cursor to the last channel falls with every pass.
  induction distance : last - cursor using Nat.strongRecOn generalizing cursor with
  | ind distance ih =>
    have ended : Size.add cursor (blocks * width) = .ok (cursor + blocks * width) :=
      Size.add_of_lt (by omega)
    by_cases within : cursor + blocks * width ≤ last
    · rcases fill_of_le positive within with ⟨passesEq, stopEq⟩
      rw [passesEq, stopEq]
      exact .take sized ended within (ih _ (by omega) within rfl)
    · rcases fill_of_lt (Nat.lt_of_not_le within) with ⟨passesEq, stopEq⟩
      rw [passesEq, stopEq]
      exact .leave sized ended (Nat.lt_of_not_le within)

end Loops

end Pass

namespace Geometry

/-- The passes that three loops over one cursor take with blocks of a given width. -/
inductive Swept (geometry : Geometry) (width : Nat) : List Pass → Prop where
  | sweep {unrolled single lanes : List Pass} {unrolledEnd singleEnd lanesEnd : Nat}
      (first : Pass.Loop geometry.channels width geometry.unroll 0 unrolled unrolledEnd)
      (second : Pass.Loop geometry.channels width 1 unrolledEnd single singleEnd)
      (third : Pass.Loop geometry.channels 1 1 singleEnd lanes lanesEnd) :
      Swept geometry width (unrolled ++ single ++ lanes)

theorem swept_iff {geometry : Geometry} {width : Nat} (widthPos : 0 < width)
    (unrollPos : 0 < geometry.unroll)
    (room : geometry.channels + geometry.unroll * width < Size.limit) {passes : List Pass} :
    geometry.Swept width passes ↔ passes = geometry.passes width := by
  have advancePos : 0 < geometry.unroll * width := Nat.mul_pos unrollPos widthPos
  have singleLe : 1 * width ≤ geometry.unroll * width := Nat.mul_le_mul_right width unrollPos
  have unrolledLe := Pass.fillEnd_le (Nat.zero_le geometry.channels) width geometry.unroll
  have singleEndLe := Pass.fillEnd_le unrolledLe width 1
  constructor
  · rintro ⟨first, second, third⟩
    rcases first.eq_fill (Nat.zero_le _) with ⟨_, rfl, rfl⟩
    rcases second.eq_fill unrolledLe with ⟨_, rfl, rfl⟩
    rcases third.eq_fill singleEndLe with ⟨_, rfl, _⟩
    rfl
  · rintro rfl
    exact .sweep (Pass.loop_fill advancePos (Nat.zero_le _) room)
      (Pass.loop_fill (by omega) unrolledLe (by omega))
      (Pass.loop_fill Nat.one_pos singleEndLe (by omega))

theorem blocks_le_of_mem_passes {geometry : Geometry} {width : Nat} {pass : Pass}
    (passMem : pass ∈ geometry.passes width) : pass.blocks ≤ max geometry.unroll 1 := by
  rcases List.mem_append.mp passMem with blockMem | laneMem
  · rcases List.mem_append.mp blockMem with unrolledMem | singleMem
    · rw [Pass.blocks_of_mem_fill unrolledMem]
      exact Nat.le_max_left _ _
    · rw [Pass.blocks_of_mem_fill singleMem]
      exact Nat.le_max_right _ _
  · rw [Pass.blocks_of_mem_fill laneMem]
    exact Nat.le_max_right _ _

end Geometry

namespace Reduction

variable {α σ β : Type}

/-- Accumulates one tap into the first rows of accumulators, one row for each block of a pass. -/
def visitTapWithin (reduction : Reduction α σ β) (load : Nat → Except Fault α) (pass : Pass)
    (rows : List (List σ)) (tap : Nat) : Except Fault (List (List σ)) := do
  return (← reduction.visitTap load pass (rows.take pass.blocks) tap) ++ rows.drop pass.blocks

/-- Walks a window once for the channels of a pass, with a fixed number of rows of accumulators. -/
def runPassWithin (reduction : Reduction α σ β) (rows : Nat) (geometry : Geometry) (task : Task)
    (load : Nat → Except Fault α) (pass : Pass) : Except Fault (List (Nat × β)) := do
  let start := List.replicate rows (List.replicate pass.width reduction.initial)
  let reached ← (geometry.taps task).foldlM (reduction.visitTapWithin load pass) start
  return (reached.take pass.blocks).flatten.zipIdx.map fun lane =>
    (pass.first + lane.2, reduction.finish lane.1 task.factor)

/-- Walking a window leaves the blocks of a pass in the first rows. -/
theorem foldlM_visitTapWithin (reduction : Reduction α σ β) (load : Nat → Except Fault α)
    {pass : Pass} (spare : List (List σ)) (taps : List Nat) {blocks : List (List σ)}
    (shape : blocks.length = pass.blocks) :
    (taps.foldlM (reduction.visitTapWithin load pass) (blocks ++ spare) >>= fun rows =>
        pure (rows.take pass.blocks)) =
      taps.foldlM (reduction.visitTap load pass) blocks := by
  induction taps generalizing blocks with
  | nil => exact congrArg Except.ok (List.take_left' shape)
  | cons tap rest ih =>
    rw [List.foldlM_cons, List.foldlM_cons, visitTapWithin, List.take_left' shape,
      List.drop_left' shape]
    cases result : reduction.visitTap load pass blocks tap with
    | error fault => rfl
    | ok reached => exact ih ((length_of_visitTap_eq_ok result).trans shape)

/-- Rows of accumulators that belong to no block do not show. -/
theorem runPassWithin_eq (reduction : Reduction α σ β) {rows : Nat} (geometry : Geometry)
    (task : Task) (load : Nat → Except Fault α) {pass : Pass} (enough : pass.blocks ≤ rows) :
    reduction.runPassWithin rows geometry task load pass =
      reduction.runPass geometry task load pass := by
  have shape : (List.replicate pass.blocks
      (List.replicate pass.width reduction.initial)).length = pass.blocks :=
    List.length_replicate
  have walked := foldlM_visitTapWithin reduction load
    (List.replicate (rows - pass.blocks) (List.replicate pass.width reduction.initial))
    (geometry.taps task) shape
  rw [List.replicate_append_replicate, Nat.add_sub_cancel' enough] at walked
  simp only [runPassWithin, runPass, ← walked, bind_assoc, pure_bind]

/-- What the loops of a routine write: the results of the passes they take, one after another. -/
def Sweeps (reduction : Reduction α σ β) (geometry : Geometry) (width : Nat) (task : Task)
    (load : Nat → Except Fault α) (writes : List (Nat × β)) : Prop :=
  ∃ passes groups, geometry.Swept width passes ∧
    passes.mapM (reduction.runPassWithin Options.maxUnroll geometry task load) = .ok groups ∧
    writes = groups.flatten

/-- The loops write what the routine returns, if anything. -/
theorem sweeps_iff {reduction : Reduction α σ β} {geometry : Geometry} {width : Nat}
    (widthPos : 0 < width) (unrollPos : 0 < geometry.unroll)
    (unrollLe : geometry.unroll ≤ Options.maxUnroll)
    (room : geometry.channels + geometry.unroll * width < Size.limit) {task : Task}
    {load : Nat → Except Fault α} {writes : List (Nat × β)} :
    reduction.Sweeps geometry width task load writes ↔
      reduction.run geometry width task load = .ok writes := by
  have each : (geometry.passes width).mapM
      (reduction.runPassWithin Options.maxUnroll geometry task load) =
        (geometry.passes width).mapM (reduction.runPass geometry task load) := by
    apply Sequence.mapM_congr
    intro pass passMem
    apply runPassWithin_eq
    have blocksLe := Geometry.blocks_le_of_mem_passes passMem
    have maxUnrollEq : Options.maxUnroll = 4 := rfl
    omega
  simp only [Sweeps, Geometry.swept_iff widthPos unrollPos room, run, Outcome.bind_eq_ok_iff]
  constructor
  · rintro ⟨_, groups, rfl, ran, rfl⟩
    rw [each] at ran
    exact ⟨groups, ran, rfl⟩
  · rintro ⟨groups, ran, collected⟩
    cases collected
    exact ⟨_, groups, rfl, each.trans ran, rfl⟩

/-- The three loops of a routine come to an end and write to every channel exactly once and to
nothing else: the result of folding the elements of the channel, tap by tap, whatever the width of
the blocks and their number. The routine returns these writes. -/
theorem sweep_writes (reduction : Reduction α σ β) (geometry : Geometry) {width : Nat}
    (widthPos : 1 ≤ width) (unrollPos : 1 ≤ geometry.unroll)
    (unrollLe : geometry.unroll ≤ Options.maxUnroll)
    (room : geometry.channels + geometry.unroll * width < Size.limit) (task : Task)
    (load : Nat → Except Fault α) (value : Nat → α)
    (loads : ∀ row < task.rows, ∀ column < task.columns, ∀ channel < geometry.channels,
      load (row * geometry.rowStride + column * geometry.channels + channel) =
        .ok (value (row * geometry.rowStride + column * geometry.channels + channel))) :
    ∃ writes,
      (∀ written, reduction.Sweeps geometry width task load written ↔ written = writes) ∧
      reduction.run geometry width task load = .ok writes ∧
      writes = (List.range geometry.channels).map fun channel =>
        (channel, reduction.finish
          (((List.range task.rows).flatMap fun row => (List.range task.columns).map fun column =>
              value (row * geometry.rowStride + column * geometry.channels + channel)).foldl
            reduction.accumulate reduction.initial) task.factor) := by
  have covered : ∀ place ∈ geometry.footprint task, load place = .ok (value place) := by
    intro place placeMem
    rcases Geometry.mem_footprint.mp placeMem with ⟨tap, tapMem, channel, channelLt, rfl⟩
    rcases Geometry.mem_taps.mp tapMem with ⟨row, rowLt, column, columnLt, rfl⟩
    exact loads row rowLt column columnLt channel channelLt
  have ran : reduction.run geometry width task load = _ := run_eq_ok covered
  simp only [reduce, Geometry.taps, List.map_flatMap, List.map_map] at ran
  refine ⟨_, ?_, ran, rfl⟩
  intro written
  rw [sweeps_iff widthPos unrollPos unrollLe room, ran, Except.ok.injEq, eq_comm]

/-- The reduction that keeps the elements it is given, in their order. -/
def collect (α : Type) : Reduction α (List α) (List α) where
  initial := []
  accumulate collected element := collected ++ [element]
  finish collected _ := collected

/-- Seven channels in blocks of two, two to a pass: four channels in one pass, two in another and
one on its own. -/
theorem sweep_writes_sevenChannels :
    ∃ writes, writes = [(0, [0, 21]), (1, [1, 22]), (2, [2, 23]), (3, [3, 24]), (4, [4, 25]),
        (5, [5, 26]), (6, [6, 27])] ∧
      (collect Nat).Sweeps ⟨7, 21, 2⟩ 2 ⟨2, 1, Binary32.zero false⟩
        (fun place => if place < 28 then .ok place else .error (.outOfBounds 28 place)) writes ∧
      (collect Nat).run ⟨7, 21, 2⟩ 2 ⟨2, 1, Binary32.zero false⟩
        (fun place => if place < 28 then .ok place else .error (.outOfBounds 28 place)) =
          .ok writes := by
  rcases sweep_writes (collect Nat) ⟨7, 21, 2⟩ (show 1 ≤ 2 by decide) (show 1 ≤ 2 by decide)
    (show 2 ≤ Options.maxUnroll by decide) (show 7 + 2 * 2 < Size.limit by decide)
    ⟨2, 1, Binary32.zero false⟩
    (fun place => if place < 28 then .ok place else .error (.outOfBounds 28 place)) id (by
      intro row rowLt column columnLt channel channelLt
      simp only at rowLt columnLt channelLt ⊢
      exact if_pos (by omega)) with ⟨writes, swept, ran, writesEq⟩
  exact ⟨writes, writesEq, (swept writes).mpr rfl, ran⟩

end Reduction

end IntegerPooling
