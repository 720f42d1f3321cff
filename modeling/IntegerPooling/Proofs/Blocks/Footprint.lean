import IntegerPooling.Proofs.Blocks.Channels

/-!
# What a reduction reads and computes

The footprint of a task is the set of places that its reduction may load: every channel at every
tap of the window, and nothing between or behind them. A run depends on the load function at its
footprint only (`run_congr`), so it never loads anything else, however its channels are grouped
into blocks. When every place of the footprint can be loaded, the run gives each channel the
plain reduction of its own elements in the order of the taps (`run_eq_ok`), and neither the width
nor the number of the blocks shows.
-/

namespace IntegerPooling

namespace Geometry

/-- The places that reducing a window may load, counted from its first element. -/
def footprint (geometry : Geometry) (task : Task) : List Nat :=
  (geometry.taps task).flatMap fun tap => (List.range geometry.channels).map (tap + ·)

theorem mem_footprint {geometry : Geometry} {task : Task} {place : Nat} :
    place ∈ geometry.footprint task ↔
      ∃ tap ∈ geometry.taps task, ∃ channel < geometry.channels, tap + channel = place := by
  simp only [footprint, List.mem_flatMap, List.mem_map, List.mem_range]

theorem mem_taps {geometry : Geometry} {task : Task} {tap : Nat} :
    tap ∈ geometry.taps task ↔
      ∃ row < task.rows, ∃ column < task.columns,
        row * geometry.rowStride + column * geometry.channels = tap := by
  simp only [taps, List.mem_flatMap, List.mem_map, List.mem_range]

end Geometry

namespace Pass

variable {σ : Type}

/-- The lanes of a pass in their blocks, each given by its distance from the first channel. -/
def arrange (pass : Pass) (lane : Nat → σ) : List (List σ) :=
  (List.range pass.blocks).map fun block =>
    (List.range pass.width).map fun index => lane (block * pass.width + index)

theorem length_arrange (pass : Pass) (lane : Nat → σ) :
    (pass.arrange lane).length = pass.blocks := by
  rw [arrange, List.length_map, List.length_range]

theorem flatten_arrange (pass : Pass) (lane : Nat → σ) :
    (pass.arrange lane).flatten = (List.range pass.size).map lane := by
  rw [arrange, ← List.flatMap_def]
  exact Sequence.flatMap_range_map lane pass.width pass.blocks

theorem arrange_const (pass : Pass) (value : σ) :
    pass.arrange (fun _ => value) =
      List.replicate pass.blocks (List.replicate pass.width value) := by
  simp only [arrange, List.map_const', List.length_range]

theorem add_mem_channels {pass : Pass} {block index : Nat} (blockLt : block < pass.blocks)
    (indexLt : index < pass.width) : pass.first + block * pass.width + index ∈ pass.channels := by
  have below := Sequence.number_lt blockLt indexLt
  rw [mem_channels, size]
  omega

end Pass

namespace Reduction

variable {α σ β : Type}

theorem loadBlock_congr {load other : Nat → Except Fault α} {address width : Nat}
    (same : ∀ lane < width, load (address + lane) = other (address + lane)) :
    loadBlock load address width = loadBlock other address width := by
  apply Sequence.mapM_congr
  intro lane laneMem
  exact same lane (List.mem_range.mp laneMem)

theorem loadBlock_eq_ok {load : Nat → Except Fault α} {address width : Nat} (value : Nat → α)
    (loads : ∀ lane < width, load (address + lane) = .ok (value (address + lane))) :
    loadBlock load address width =
      .ok ((List.range width).map fun lane => value (address + lane)) := by
  apply Sequence.mapM_eq_ok
  intro lane laneMem
  exact loads lane (List.mem_range.mp laneMem)

theorem length_of_visitTap_eq_ok {reduction : Reduction α σ β} {load : Nat → Except Fault α}
    {pass : Pass} {blocks results : List (List σ)} {tap : Nat}
    (visited : reduction.visitTap load pass blocks tap = .ok results) :
    results.length = blocks.length := by
  rw [Sequence.length_of_mapM_eq_ok visited, List.length_zipIdx]

theorem visitTap_congr {reduction : Reduction α σ β} {load other : Nat → Except Fault α}
    {pass : Pass} {blocks : List (List σ)} {tap : Nat} (shape : blocks.length = pass.blocks)
    (same : ∀ channel ∈ pass.channels, load (tap + channel) = other (tap + channel)) :
    reduction.visitTap load pass blocks tap = reduction.visitTap other pass blocks tap := by
  apply Sequence.mapM_congr
  intro entry entryMem
  have blockLt : entry.2 < pass.blocks := by
    rw [← shape]
    exact List.snd_lt_of_mem_zipIdx entryMem
  rw [loadBlock_congr]
  intro lane laneLt
  have laneSame := same _ (Pass.add_mem_channels blockLt laneLt)
  rw [Nat.add_assoc]
  exact laneSame

/-- One tap adds one element to the accumulator of every lane. -/
theorem visitTap_arrange {reduction : Reduction α σ β} {load : Nat → Except Fault α}
    {value : Nat → α} {pass : Pass} (lane : Nat → σ) {tap : Nat}
    (loads : ∀ channel ∈ pass.channels, load (tap + channel) = .ok (value (tap + channel))) :
    reduction.visitTap load pass (pass.arrange lane) tap =
      .ok (pass.arrange fun index =>
        reduction.accumulate (lane index) (value (tap + (pass.first + index)))) := by
  have each : ∀ entry ∈ (pass.arrange lane).zipIdx,
      (do
        let elements ← loadBlock load (tap + (pass.first + entry.2 * pass.width)) pass.width
        return List.zipWith reduction.accumulate entry.1 elements) =
      (Except.ok (List.zipWith reduction.accumulate entry.1
        ((List.range pass.width).map fun index =>
          value (tap + (pass.first + entry.2 * pass.width) + index))) :
        Except Fault (List σ)) := by
    intro entry entryMem
    have blockLt : entry.2 < pass.blocks := by
      rw [← Pass.length_arrange pass lane]
      exact List.snd_lt_of_mem_zipIdx entryMem
    rw [loadBlock_eq_ok value]
    · rfl
    · intro index indexLt
      have laneLoads := loads _ (Pass.add_mem_channels blockLt indexLt)
      rw [Nat.add_assoc]
      exact laneLoads
  rw [visitTap, Sequence.mapM_eq_ok each]
  congr 1
  apply List.ext_getElem
  · simp only [List.length_map, List.length_zipIdx, Pass.length_arrange]
  · intro block _ blockLt
    rw [Pass.length_arrange] at blockLt
    apply List.ext_getElem
    · simp [Pass.arrange]
    · intro index _ _
      simp [Pass.arrange, Nat.add_assoc]

/-- Walking the taps folds the elements of every lane in the order of the taps. -/
theorem foldlM_visitTap_arrange (reduction : Reduction α σ β) {load : Nat → Except Fault α}
    {value : Nat → α} {pass : Pass} (lane : Nat → σ) {taps : List Nat}
    (loads : ∀ tap ∈ taps, ∀ channel ∈ pass.channels,
      load (tap + channel) = .ok (value (tap + channel))) :
    taps.foldlM (reduction.visitTap load pass) (pass.arrange lane) =
      .ok (pass.arrange fun index =>
        (taps.map fun tap => value (tap + (pass.first + index))).foldl reduction.accumulate
          (lane index)) := by
  induction taps generalizing lane with
  | nil => rfl
  | cons tap rest ih =>
    rw [List.foldlM_cons, visitTap_arrange lane (loads tap List.mem_cons_self)]
    exact ih _ fun other otherMem => loads other (List.mem_cons_of_mem _ otherMem)

theorem runPass_eq_ok {reduction : Reduction α σ β} {geometry : Geometry} {task : Task}
    {load : Nat → Except Fault α} {value : Nat → α} {pass : Pass}
    (loads : ∀ tap ∈ geometry.taps task, ∀ channel ∈ pass.channels,
      load (tap + channel) = .ok (value (tap + channel))) :
    reduction.runPass geometry task load pass =
      .ok (pass.channels.map fun channel =>
        (channel, reduction.reduce ((geometry.taps task).map fun tap => value (tap + channel))
          task.factor)) := by
  have walked := foldlM_visitTap_arrange reduction (fun _ => reduction.initial) loads
  rw [Pass.arrange_const] at walked
  simp only [runPass, walked]
  change Except.ok _ = _
  congr 1
  rw [Pass.flatten_arrange, Pass.channels, List.range'_eq_map_range, List.map_map]
  apply List.ext_getElem
  · simp
  · intro index _ _
    simp [reduce]

theorem runPass_congr {reduction : Reduction α σ β} {geometry : Geometry} {task : Task}
    {load other : Nat → Except Fault α} {pass : Pass}
    (same : ∀ tap ∈ geometry.taps task, ∀ channel ∈ pass.channels,
      load (tap + channel) = other (tap + channel)) :
    reduction.runPass geometry task load pass = reduction.runPass geometry task other pass := by
  have walked : ∀ start : List (List σ), start.length = pass.blocks →
      (geometry.taps task).foldlM (reduction.visitTap load pass) start =
        (geometry.taps task).foldlM (reduction.visitTap other pass) start := by
    intro start startShape
    -- The number of blocks never changes, so every load belongs to a channel of the pass.
    apply Sequence.foldlM_congr (fun blocks => blocks.length = pass.blocks) startShape
    · intro blocks shape tap tapMem
      exact visitTap_congr shape (same tap tapMem)
    · intro blocks results shape tap _ visited
      rw [length_of_visitTap_eq_ok visited, shape]
  rw [runPass, runPass, walked _ List.length_replicate]

/-- Each channel gets the reduction of its own elements, whatever the blocks. -/
theorem run_eq_ok {reduction : Reduction α σ β} {geometry : Geometry} {width : Nat} {task : Task}
    {load : Nat → Except Fault α} {value : Nat → α}
    (loads : ∀ place ∈ geometry.footprint task, load place = .ok (value place)) :
    reduction.run geometry width task load =
      .ok ((List.range geometry.channels).map fun channel =>
        (channel, reduction.reduce ((geometry.taps task).map fun tap => value (tap + channel))
          task.factor)) := by
  have each : ∀ pass ∈ geometry.passes width,
      reduction.runPass geometry task load pass =
        .ok (pass.channels.map fun channel =>
          (channel, reduction.reduce ((geometry.taps task).map fun tap => value (tap + channel))
            task.factor)) := by
    intro pass passMem
    apply runPass_eq_ok
    intro tap tapMem channel channelMem
    apply loads
    exact Geometry.mem_footprint.mpr
      ⟨tap, tapMem, channel, Geometry.lt_channels_of_mem_passes passMem channelMem, rfl⟩
  rw [run, Sequence.mapM_eq_ok each]
  change Except.ok _ = _
  rw [← List.flatMap_def, ← List.map_flatMap, Geometry.flatMap_channels_passes]

/-- What lies outside the footprint of a task makes no difference to its run. -/
theorem run_congr {reduction : Reduction α σ β} {geometry : Geometry} {width : Nat} {task : Task}
    {load other : Nat → Except Fault α}
    (same : ∀ place ∈ geometry.footprint task, load place = other place) :
    reduction.run geometry width task load = reduction.run geometry width task other := by
  have each : ∀ pass ∈ geometry.passes width,
      reduction.runPass geometry task load pass = reduction.runPass geometry task other pass := by
    intro pass passMem
    apply runPass_congr
    intro tap tapMem channel channelMem
    apply same
    exact Geometry.mem_footprint.mpr
      ⟨tap, tapMem, channel, Geometry.lt_channels_of_mem_passes passMem channelMem, rfl⟩
  rw [run, run, Sequence.mapM_congr each]

end Reduction

end IntegerPooling
