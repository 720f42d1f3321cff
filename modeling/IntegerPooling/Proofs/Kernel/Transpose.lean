import IntegerPooling.Proofs.Kernel.Average
import IntegerPooling.Proofs.Kernel.Plane
import IntegerPooling.Proofs.Layout.Transpose
import Mathlib.Data.Multiset.Bind

/-!
# Height and width are treated alike

Exchanging rows and columns in an operator and in its source exchanges them in the output
(`run_transpose`). The taps of a window reach the same positions then, but column by column where
they went row by row, so the elements of the window come in another order. No reduction minds the
order: a maximum does not, and a sum does not even when it wraps on the way.
-/

namespace IntegerPooling

namespace Element

variable {t : ElementType}

theorem max_right_comm (first second third : Element t) :
    (first.max second).max third = (first.max third).max second := by
  apply ext_val
  simp only [val_max]
  omega

/-- Terms are exchanged as in an exact sum, which is wrapped once. -/
theorem addWrapping_right_comm (sum : Element .s32) (first second : Element t) :
    (sum.addWrapping first).addWrapping second = (sum.addWrapping second).addWrapping first := by
  simp only [addWrapping, wrap_val_add]
  rw [Int.add_right_comm]

end Element

namespace Direct

variable {t : ElementType} {elements others : List (Element t)}

theorem greatest_perm (permuted : elements.Perm others) : greatest elements = greatest others :=
  permuted.foldl_eq' (fun _ _ _ _ _ => Element.max_right_comm _ _ _) _

theorem sum_perm (permuted : elements.Perm others) : sum elements = sum others :=
  permuted.foldl_eq' (fun _ _ _ _ _ => Element.addWrapping_right_comm _ _ _) _

/-- The output element of a window depends neither on the order of its elements nor on which side
of the kernel is called its height. -/
theorem outputElement_transpose (permuted : elements.Perm others) (operator : Operator)
    (d : ElementType) :
    outputElement operator.transpose d elements = outputElement operator d others := by
  have sameAlgorithm : operator.transpose.algorithm = operator.algorithm := rfl
  have sameSize : Size.mul operator.transpose.kernel.height operator.transpose.kernel.width =
      Size.mul operator.kernel.height operator.kernel.width := Size.mul_comm _ _
  rw [outputElement, outputElement, sameAlgorithm, sameSize, greatest_perm permuted,
    sum_perm permuted, permuted.length_eq]

end Direct

theorem Sequence.flatMap_map_perm {α β γ : Type} (rows : List α) (columns : List β)
    (value : α → β → γ) :
    (rows.flatMap fun row => columns.map fun column => value row column).Perm
      (columns.flatMap fun column => rows.map fun row => value row column) := by
  apply Multiset.coe_eq_coe.mp
  simpa using Multiset.bind_map_comm (rows : Multiset α) (columns : Multiset β)

namespace Operator

/-- The taps of a transposed window reach the transposed positions, column by column. -/
theorem tapPositions_transpose (operator : Operator) (extent : Spatial) (row column : Nat) :
    (operator.transpose.tapPositions extent.transpose column row).Perm
      ((operator.tapPositions extent row column).map Prod.swap) := by
  rw [tapPositions_eq, tapPositions_eq, List.map_flatMap]
  simp only [List.map_map]
  exact Sequence.flatMap_map_perm _ _ _

/-- A transposed source has the same elements at the taps of a transposed window. -/
theorem tapElements_transpose {t : ElementType} (operator : Operator) (layout : Layout)
    (elements : List (Element t)) {image channel : Nat} (imageLt : image < layout.batch)
    (channelLt : channel < layout.channels) (row column : Nat) :
    (operator.transpose.tapElements layout.transpose (layout.transposePlanes elements) image
        channel column row).Perm
      (operator.tapElements layout elements image channel row column) := by
  have permuted := (operator.tapPositions_transpose layout.extent row column).map fun position =>
    (layout.transposePlanes elements).getD
      (layout.transpose.place image channel position.1 position.2) (Element.lowest t)
  rw [List.map_map] at permuted
  apply permuted.trans
  apply List.Perm.of_eq
  apply List.map_congr_left
  intro position positionMem
  rcases inside_of_mem_tapPositions positionMem with ⟨rowLt, columnLt⟩
  have found := Layout.getElem?_transposePlanes elements
    (⟨imageLt, channelLt, rowLt, columnLt⟩ : layout.Contains image channel position.1 position.2)
  rw [Function.comp_apply, Prod.fst_swap, Prod.snd_swap, List.getD_eq_getElem?_getD, found,
    Option.getD_some]

end Operator

namespace Kernel

variable {operator : Operator} {source destination turned : Layout}
  {host otherHost : Capabilities} {options otherOptions : Options} {kernel other : Kernel}
  {traversal otherTraversal : Traversal} {s d : ElementType}

/-- The destination of a transposed operator is transposed, apart from its data type. -/
theorem eq_transpose_of_build
    (built : (build operator source destination host options).outcome = .ok kernel)
    (builtTurned : (build operator.transpose source.transpose turned otherHost
      otherOptions).outcome = .ok other)
    (sameType : turned.dataType = destination.dataType) : turned = destination.transpose := by
  have suits := (built_of_build built).planned.suits
  have suitsTurned := (built_of_build builtTurned).planned.suits
  have batchEq : turned.batch = destination.batch :=
    suitsTurned.batch_eq.trans suits.batch_eq.symm
  have channelsEq : turned.channels = destination.channels :=
    suitsTurned.channels_eq.trans suits.channels_eq.symm
  have extentEq : turned.extent = destination.extent.transpose := by
    rw [suitsTurned.extent_eq, suits.extent_eq]
    rfl
  rcases turned with ⟨batch, channels, extent, dataType⟩
  cases batchEq
  cases channelsEq
  cases extentEq
  cases sameType
  rfl

/-- Exchanging rows and columns in an operator and in its source exchanges them in the output,
whatever hosts and options the two kernels were built for and in whatever orders they visit the
pixels. -/
theorem run_transpose
    (built : (build operator source destination host options).outcome = .ok kernel)
    (builtTurned : (build operator.transpose source.transpose turned otherHost
      otherOptions).outcome = .ok other)
    (visits : traversal.VisitsOnce destination.batch destination.extent.height
      destination.extent.width)
    (visitsTurned : otherTraversal.VisitsOnce turned.batch turned.extent.height
      turned.extent.width)
    {input : List (Element s)} {output fresh result transposed : List (Element d)}
    (ran : (kernel.runElements traversal input output).outcome = .ok result)
    (ranTurned : (other.runElements otherTraversal (source.transposePlanes input) fresh).outcome =
      .ok transposed) :
    turned = destination.transpose ∧ transposed = destination.transposePlanes result := by
  have admits := (returns_iff built visits input output).mp ⟨result, ran⟩
  have admitsTurned := (returns_iff builtTurned visitsTurned _ fresh).mp ⟨transposed, ranTurned⟩
  obtain rfl := eq_transpose_of_build built builtTurned
    (admitsTurned.destination_eq.trans admits.destination_eq.symm)
  refine ⟨rfl, ?_⟩
  have suits := (built_of_build built).planned.suits
  apply Layout.eq_transposePlanes
  · rw [length_of_returned builtTurned visitsTurned ranTurned, Layout.count_transpose]
  · intro image channel row column contained
    rcases exists_output built visits ran contained with ⟨value, isOutput, produced⟩
    rcases exists_output builtTurned visitsTurned ranTurned contained.transpose with
      ⟨turnedValue, isTurned, producedTurned⟩
    have imageLt : image < source.batch := suits.batch_eq ▸ contained.image_lt
    have channelLt : channel < source.channels := suits.channels_eq ▸ contained.channel_lt
    have permuted := operator.tapElements_transpose source input imageLt channelLt row column
    -- Both elements are made of the elements at the same taps, listed in two orders.
    have computed := producedTurned.value_eq
    rw [Direct.outputElement_transpose permuted, produced.value_eq] at computed
    cases computed
    exact ⟨value, isTurned, isOutput⟩

/-- Pairs of columns of two rows, and pairs of rows of the same elements in two columns. -/
theorem run_transpose_pairs :
    ∃ kernel other : Kernel,
      (build (Operator.dense .averageIncludingPadding ⟨1, 2⟩) ⟨1, 1, ⟨2, 3⟩, .u8⟩
        ⟨1, 1, ⟨2, 2⟩, .s8⟩ .full .standard).outcome = .ok kernel ∧
      (kernel.runElements Traversal.rowMajor ([1, 3, 7, 40, 60, 90].map (Element.clamp .u8))
        (List.replicate 4 (Element.lowest .s8))).outcome =
          .ok ([2, 5, 50, 75].map (Element.clamp .s8)) ∧
      (build (Operator.dense .averageIncludingPadding ⟨2, 1⟩) ⟨1, 1, ⟨3, 2⟩, .u8⟩
        ⟨1, 1, ⟨2, 2⟩, .s8⟩ ⟨true, false⟩ ⟨.auto, 3⟩).outcome = .ok other ∧
      (other.runElements Traversal.reversed ([1, 40, 3, 60, 7, 90].map (Element.clamp .u8))
        (List.replicate 4 (Element.lowest .s8))).outcome =
          .ok ([2, 50, 5, 75].map (Element.clamp .s8)) ∧
      [2, 50, 5, 75].map (Element.clamp .s8) =
        Layout.transposePlanes ⟨1, 1, ⟨2, 2⟩, .s8⟩ ([2, 5, 50, 75].map (Element.clamp .s8)) := by
  have built : (build (Operator.dense .averageIncludingPadding ⟨1, 2⟩) ⟨1, 1, ⟨2, 3⟩, .u8⟩
      ⟨1, 1, ⟨2, 2⟩, .s8⟩ .full .standard).outcome =
        .ok ⟨⟨.averageIncludingPadding, 1, 1, ⟨2, 3⟩, ⟨2, 2⟩, ⟨1, 2⟩, ⟨1, 1⟩, ⟨0, 0⟩, .u8, .s8,
          .wide, 8, 1⟩, ⟨.average .u8 .s8, ⟨1, 3, 1⟩, 8, .wide⟩⟩ := by cbv
  have builtTurned : (build (Operator.dense .averageIncludingPadding ⟨2, 1⟩) ⟨1, 1, ⟨3, 2⟩, .u8⟩
      ⟨1, 1, ⟨2, 2⟩, .s8⟩ ⟨true, false⟩ ⟨.auto, 3⟩).outcome =
        .ok ⟨⟨.averageIncludingPadding, 1, 1, ⟨3, 2⟩, ⟨2, 2⟩, ⟨2, 1⟩, ⟨1, 1⟩, ⟨0, 0⟩, .u8, .s8,
          .narrow, 4, 3⟩, ⟨.average .u8 .s8, ⟨1, 2, 3⟩, 4, .narrow⟩⟩ := by cbv
  have ran : (runElements ⟨⟨.averageIncludingPadding, 1, 1, ⟨2, 3⟩, ⟨2, 2⟩, ⟨1, 2⟩, ⟨1, 1⟩, ⟨0, 0⟩,
      .u8, .s8, .wide, 8, 1⟩, ⟨.average .u8 .s8, ⟨1, 3, 1⟩, 8, .wide⟩⟩ Traversal.rowMajor
      ([1, 3, 7, 40, 60, 90].map (Element.clamp .u8))
      (List.replicate 4 (Element.lowest .s8))).outcome =
        .ok ([2, 5, 50, 75].map (Element.clamp .s8)) := by decide +kernel
  have ranTurned : (runElements ⟨⟨.averageIncludingPadding, 1, 1, ⟨3, 2⟩, ⟨2, 2⟩, ⟨2, 1⟩, ⟨1, 1⟩,
      ⟨0, 0⟩, .u8, .s8, .narrow, 4, 3⟩, ⟨.average .u8 .s8, ⟨1, 2, 3⟩, 4, .narrow⟩⟩
      Traversal.reversed ([1, 40, 3, 60, 7, 90].map (Element.clamp .u8))
      (List.replicate 4 (Element.lowest .s8))).outcome =
        .ok ([2, 50, 5, 75].map (Element.clamp .s8)) := by decide +kernel
  have turnedInput : Layout.transposePlanes ⟨1, 1, ⟨2, 3⟩, .u8⟩
      ([1, 3, 7, 40, 60, 90].map (Element.clamp .u8)) =
        [1, 40, 3, 60, 7, 90].map (Element.clamp .u8) := by decide
  refine ⟨_, _, built, ran, builtTurned, ranTurned, ?_⟩
  rw [← turnedInput] at ranTurned
  exact (run_transpose built builtTurned (Traversal.visitsOnce_rowMajor 1 2 2)
    (Traversal.visitsOnce_reversed 1 2 2) ran ranTurned).2

end Kernel

end IntegerPooling
