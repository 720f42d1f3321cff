import IntegerPooling.Blocks
import IntegerPooling.Proofs.Sequence

/-!
# The channels of the passes

The three groups of passes follow one another without a gap: the passes over blocks of any width
and any number of blocks cover every channel exactly once, in order (`flatMap_channels_passes`).
What is left over by wide blocks is taken up by narrower ones, and single channels always end at
the last channel.
-/

namespace IntegerPooling

namespace Pass

def channels (pass : Pass) : List Nat :=
  List.range' pass.first pass.size

theorem mem_channels {pass : Pass} {channel : Nat} :
    channel ∈ pass.channels ↔ pass.first ≤ channel ∧ channel < pass.first + pass.size := by
  rw [channels, List.mem_range'_1]

theorem le_fillEnd (first last width blocks : Nat) : first ≤ fillEnd first last width blocks :=
  Nat.le_add_right _ _

theorem fillEnd_le {first last : Nat} (ordered : first ≤ last) (width blocks : Nat) :
    fillEnd first last width blocks ≤ last := by
  have covered := Nat.div_mul_le_self (last - first) (blocks * width)
  rw [fillEnd]
  omega

theorem fillEnd_one {first last : Nat} (ordered : first ≤ last) :
    fillEnd first last 1 1 = last := by
  rw [fillEnd, Nat.mul_one, Nat.div_one, Nat.add_sub_cancel' ordered]

theorem flatMap_channels_fill (first last width blocks : Nat) :
    (fill first last width blocks).flatMap channels =
      List.range' first (fillEnd first last width blocks - first) := by
  have groups := Sequence.flatMap_range' first (blocks * width)
    ((last - first) / (blocks * width))
  rw [fill, List.flatMap_map, fillEnd, Nat.add_sub_cancel_left]
  exact groups

end Pass

namespace Geometry

/-- The passes cover every channel exactly once and in order. -/
theorem flatMap_channels_passes (geometry : Geometry) (width : Nat) :
    (geometry.passes width).flatMap Pass.channels = List.range geometry.channels := by
  have unrolledLe := Pass.fillEnd_le (Nat.zero_le geometry.channels) width geometry.unroll
  have blocksLe := Pass.fillEnd_le unrolledLe width 1
  have blocksGe := Pass.le_fillEnd (Pass.fillEnd 0 geometry.channels width geometry.unroll)
    geometry.channels width 1
  -- Each group starts where the one before it ends, so the three runs of channels join.
  simp only [passes, List.flatMap_append, Pass.flatMap_channels_fill, Pass.fillEnd_one blocksLe]
  rw [Sequence.range'_append_range' (Nat.zero_le _) blocksGe,
    Sequence.range'_append_range' (Nat.zero_le _) blocksLe, Nat.sub_zero, List.range_eq_range']

theorem lt_channels_of_mem_passes {geometry : Geometry} {width : Nat} {pass : Pass}
    {channel : Nat} (passMem : pass ∈ geometry.passes width)
    (channelMem : channel ∈ pass.channels) :
    channel < geometry.channels := by
  have covered : channel ∈ (geometry.passes width).flatMap Pass.channels :=
    List.mem_flatMap.mpr ⟨pass, passMem, channelMem⟩
  rw [flatMap_channels_passes] at covered
  exact List.mem_range.mp covered

end Geometry

end IntegerPooling
