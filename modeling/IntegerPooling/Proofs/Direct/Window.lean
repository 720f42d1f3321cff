import IntegerPooling.Proofs.Direct.Taps

/-!
# Windows by definition

Going through all taps of the kernel and skipping those outside the input collects exactly the
elements of the taps inside the input, in their order (`windowElements_eq_ok`). Signed positions
have to stay in the lower half of a machine word for this, which holds for all places of the
kernel once it holds for the padded extent.
-/

namespace IntegerPooling

namespace Direct

/-- Inside the padded extent the signed computation of a position is exact. -/
theorem coordinate?_eq_ok {axis : Axis} {after index tap : Nat}
    (small : axis.padded after < 2 ^ 63) (indexLt : index < axis.places after)
    (tapLt : tap < axis.kernel) :
    coordinate? axis index tap = .ok (axis.coordinate index tap) := by
  have inPadded := Axis.mul_add_kernel_le indexLt
  rw [Axis.padded] at small inPadded
  have limitEq : Size.limit = 2 ^ 64 := rfl
  have productFits : index * axis.stride < Size.limit := by omega
  have positionFits : index * axis.stride + tap < Size.limit := by omega
  have positionSmall : index * axis.stride + tap < 2 ^ 63 := by omega
  have beforeSmall : axis.before < 2 ^ 63 := by omega
  have extentSmall : axis.extent < 2 ^ 63 := by omega
  have difference : Size.signedSub (index * axis.stride + tap : Nat) axis.before =
      .ok ((index * axis.stride + tap : Nat) - axis.before) := by
    rw [Size.signedSub, if_pos (by omega)]
  rw [coordinate?, Size.mul_of_lt productFits, Outcome.ok_bind, Size.add_of_lt positionFits,
    Outcome.ok_bind, Size.signed_of_lt positionSmall, Size.signed_of_lt beforeSmall, difference,
    Outcome.ok_bind, Size.signed_of_lt extentSmall, Axis.coordinate]
  by_cases inside : axis.before ≤ index * axis.stride + tap ∧
      index * axis.stride + tap < axis.extent + axis.before
  · rw [if_pos inside, if_neg (by omega)]
    have exact : ((index * axis.stride + tap : Nat) - (axis.before : Int)).toNat =
        index * axis.stride + tap - axis.before := by omega
    rw [exact]
    rfl
  · rw [if_neg inside, if_pos (by omega)]
    rfl

variable {s : ElementType}

theorem element_eq_ok {source : List (Element s)} {place : Nat} (placeLt : place < source.length) :
    element source.toArray place = .ok (source.getD place (Element.lowest s)) := by
  have found : source.toArray[place]? = some (source.getD place (Element.lowest s)) := by
    rw [List.getElem?_toArray]
    exact Sequence.getElem?_eq_some_getD placeLt _
  simp only [element, found]

variable {operator : Operator} {layout : Layout} {source : List (Element s)} {after : Spatial}

/-- The elements of one row of the window, from its first column to its last. -/
theorem rowElements_eq_ok (counted : layout.count < Size.limit)
    (whole : source.length = layout.count)
    (small : (operator.horizontal layout.extent).padded after.width < 2 ^ 63)
    {image channel inputRow column : Nat} (imageLt : image < layout.batch)
    (channelLt : channel < layout.channels) (rowLt : inputRow < layout.extent.height)
    (columnLt : column < (operator.horizontal layout.extent).places after.width) :
    rowElements operator layout source.toArray image channel inputRow column =
      .ok (((List.range operator.kernel.width).filterMap
          ((operator.horizontal layout.extent).coordinate column)).map fun inputColumn =>
        source.getD (layout.place image channel inputRow inputColumn) (Element.lowest s)) := by
  apply Outcome.bind_eq_ok_iff.mpr
  refine ⟨_, @Sequence.mapM_eq_ok _ _ _ _
    (fun tap => ((operator.horizontal layout.extent).coordinate column tap).map fun inputColumn =>
      source.getD (layout.place image channel inputRow inputColumn) (Element.lowest s)) _ ?_, ?_⟩
  · intro tap tapMem
    rw [coordinate?_eq_ok small columnLt (List.mem_range.mp tapMem), Outcome.ok_bind]
    cases found : (operator.horizontal layout.extent).coordinate column tap with
    | none => rfl
    | some inputColumn =>
      have contained : layout.Contains image channel inputRow inputColumn :=
        ⟨imageLt, channelLt, rowLt, Axis.lt_extent_of_coordinate found⟩
      have placeLt : layout.place image channel inputRow inputColumn < source.length := by
        rw [whole]
        exact Layout.place_lt_count contained
      simp only [Layout.offset_of_contains counted contained, Outcome.ok_bind,
        element_eq_ok placeLt]
      rfl
  · change Except.ok _ = _
    rw [List.filterMap_map, List.map_filterMap]
    rfl

/-- The definition collects the elements at the taps inside the input. -/
theorem windowElements_eq_ok (counted : layout.count < Size.limit)
    (whole : source.length = layout.count)
    (heightSmall : (operator.vertical layout.extent).padded after.height < 2 ^ 63)
    (widthSmall : (operator.horizontal layout.extent).padded after.width < 2 ^ 63)
    {image channel row column : Nat} (imageLt : image < layout.batch)
    (channelLt : channel < layout.channels)
    (rowLt : row < (operator.vertical layout.extent).places after.height)
    (columnLt : column < (operator.horizontal layout.extent).places after.width) :
    windowElements operator layout source.toArray image channel row column =
      .ok (operator.tapElements layout source image channel row column) := by
  apply Outcome.bind_eq_ok_iff.mpr
  refine ⟨_, @Sequence.mapM_eq_ok _ _ _ _
    (fun tap => ((operator.vertical layout.extent).coordinate row tap).toList.flatMap
      fun inputRow => ((List.range operator.kernel.width).filterMap
        ((operator.horizontal layout.extent).coordinate column)).map fun inputColumn =>
          source.getD (layout.place image channel inputRow inputColumn) (Element.lowest s)) _
    ?_, ?_⟩
  · intro tap tapMem
    rw [coordinate?_eq_ok heightSmall rowLt (List.mem_range.mp tapMem), Outcome.ok_bind]
    cases found : (operator.vertical layout.extent).coordinate row tap with
    | none => rfl
    | some inputRow =>
      rw [Option.toList_some, List.flatMap_singleton]
      exact rowElements_eq_ok counted whole widthSmall imageLt channelLt
        (Axis.lt_extent_of_coordinate found) columnLt
  · rw [← List.flatMap_def]
    simp only [Operator.tapElements, Operator.tapPositions, Operator.filterMap_tapPosition,
      List.map_flatMap, List.map_map]
    rfl

end Direct

end IntegerPooling
