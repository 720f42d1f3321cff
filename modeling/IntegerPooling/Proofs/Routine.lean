import IntegerPooling.Operator.Plan
import IntegerPooling.Proofs.Outcome
import IntegerPooling.Routine

/-!
# Data paths of routines

Which data types an algorithm supports and how wide its blocks are is decided twice: by rules when
a plan is made, and by a table when a routine is chosen for the plan. The two decisions agree: the
table has a row exactly for the supported types (`exists_select?_iff`), and the lanes of a row are
those that the block width of the plan was computed from (`laneBytes_of_select?`). What a
successful choice tells about the routine is collected in `Routine.Fits`.
-/

namespace IntegerPooling

theorem DataType.isPoolable_iff {dataType : DataType} :
    dataType.isPoolable = true ↔ dataType ∈ [.s8, .u8, .s32] := by
  cases dataType <;> decide

theorem ElementType.dataType_injective {left right : ElementType}
    (same : left.dataType = right.dataType) : left = right := by
  cases left <;> cases right <;> first | rfl | cases same

theorem ElementType.size_dataType (elementType : ElementType) :
    elementType.dataType.size = elementType.size :=
  rfl

/-- Each lane of a vector takes part of its bytes, so at least one channel fits a block. -/
theorem InstructionSet.blockWidth_pos (set : InstructionSet) (algorithm : Algorithm)
    (source : DataType) : 0 < set.blockWidth algorithm source := by
  cases set <;> cases algorithm <;> cases source <;> decide

namespace DataPath

/-- What a data path that was chosen for an algorithm and two data types looks like. -/
structure Chosen (algorithm : Algorithm) (source destination : DataType) (path : DataPath) :
    Prop where
  source_eq : path.source.dataType = source
  destination_eq : path.destination.dataType = destination
  isMaximum_iff : (∃ t, path = .maximum t) ↔ algorithm = .maximum

theorem maximumRow?_eq_some_iff {source destination : DataType} {row : Row} :
    maximumRow? source destination = some row ↔
      ∃ t : ElementType, source = t.dataType ∧ destination = t.dataType ∧
        row = ⟨maximum t, t.size⟩ := by
  constructor
  · intro listed
    unfold maximumRow? at listed
    split at listed
    · exact ⟨.s8, rfl, rfl, (Option.some.inj listed).symm⟩
    · exact ⟨.u8, rfl, rfl, (Option.some.inj listed).symm⟩
    · exact ⟨.s32, rfl, rfl, (Option.some.inj listed).symm⟩
    · cases listed
  · rintro ⟨t, rfl, rfl, rfl⟩
    cases t <;> rfl

theorem averageRow?_eq_some_iff {source destination : DataType} {row : Row} :
    averageRow? source destination = some row ↔
      ∃ s d : ElementType, source = s.dataType ∧ destination = d.dataType ∧
        row = ⟨average s d, 4⟩ := by
  constructor
  · intro listed
    unfold averageRow? at listed
    split at listed
    · exact ⟨.s8, .s8, rfl, rfl, (Option.some.inj listed).symm⟩
    · exact ⟨.s8, .u8, rfl, rfl, (Option.some.inj listed).symm⟩
    · exact ⟨.s8, .s32, rfl, rfl, (Option.some.inj listed).symm⟩
    · exact ⟨.u8, .s8, rfl, rfl, (Option.some.inj listed).symm⟩
    · exact ⟨.u8, .u8, rfl, rfl, (Option.some.inj listed).symm⟩
    · exact ⟨.u8, .s32, rfl, rfl, (Option.some.inj listed).symm⟩
    · exact ⟨.s32, .s8, rfl, rfl, (Option.some.inj listed).symm⟩
    · exact ⟨.s32, .u8, rfl, rfl, (Option.some.inj listed).symm⟩
    · exact ⟨.s32, .s32, rfl, rfl, (Option.some.inj listed).symm⟩
    · cases listed
  · rintro ⟨s, d, rfl, rfl, rfl⟩
    cases s <;> cases d <;> rfl

section Selected

variable {algorithm : Algorithm} {source destination : DataType} {row : Row}

theorem chosen_of_select? (selected : select? algorithm source destination = some row) :
    Chosen algorithm source destination row.path := by
  cases algorithm with
  | maximum =>
    rcases maximumRow?_eq_some_iff.mp selected with ⟨t, rfl, rfl, rfl⟩
    exact ⟨rfl, rfl, by simp⟩
  | averageIncludingPadding =>
    rcases averageRow?_eq_some_iff.mp selected with ⟨s, d, rfl, rfl, rfl⟩
    exact ⟨rfl, rfl, by simp⟩
  | averageExcludingPadding =>
    rcases averageRow?_eq_some_iff.mp selected with ⟨s, d, rfl, rfl, rfl⟩
    exact ⟨rfl, rfl, by simp⟩

/-- The lanes that the table gives are those of the rule for plans. -/
theorem laneBytes_of_select? (selected : select? algorithm source destination = some row) :
    row.laneBytes = algorithm.laneBytes source := by
  cases algorithm with
  | maximum =>
    rcases maximumRow?_eq_some_iff.mp selected with ⟨t, rfl, _, rfl⟩
    rfl
  | averageIncludingPadding =>
    rcases averageRow?_eq_some_iff.mp selected with ⟨_, _, _, _, rfl⟩
    rfl
  | averageExcludingPadding =>
    rcases averageRow?_eq_some_iff.mp selected with ⟨_, _, _, _, rfl⟩
    rfl

/-- The table has a row exactly for the types that the rule for plans supports. -/
theorem exists_select?_iff :
    (∃ row, select? algorithm source destination = some row) ↔
      algorithm.supports source destination = true := by
  rw [← Option.isSome_iff_exists]
  cases algorithm <;> cases source <;> cases destination <;> decide

end Selected

end DataPath

/-- The distances between the elements of a plan, however large. -/
def Plan.geometry (plan : Plan) : Geometry :=
  ⟨plan.channels, plan.input.width * plan.channels, plan.unroll⟩

namespace Routine

/-- What a routine that was made for a plan has in common with it. -/
structure Fits (plan : Plan) (routine : Routine) : Prop where
  chosen : DataPath.Chosen plan.algorithm plan.source plan.destination routine.path
  geometry_eq : routine.geometry = plan.geometry
  block_eq : routine.block = plan.block
  instructionSet_eq : routine.instructionSet = plan.instructionSet

theorem Fits.size_source {plan : Plan} {routine : Routine} (fits : Fits plan routine) :
    plan.source.size = routine.path.source.size := by
  rw [← ElementType.size_dataType, fits.chosen.source_eq]

theorem Fits.size_destination {plan : Plan} {routine : Routine} (fits : Fits plan routine) :
    plan.destination.size = routine.path.destination.size := by
  rw [← ElementType.size_dataType, fits.chosen.destination_eq]

theorem Fits.path_source {plan : Plan} {routine : Routine} (fits : Fits plan routine)
    {s : ElementType} (sameSource : plan.source = s.dataType) : routine.path.source = s :=
  ElementType.dataType_injective (fits.chosen.source_eq.trans sameSource)

theorem Fits.path_destination {plan : Plan} {routine : Routine} (fits : Fits plan routine)
    {d : ElementType} (sameDestination : plan.destination = d.dataType) :
    routine.path.destination = d :=
  ElementType.dataType_injective (fits.chosen.destination_eq.trans sameDestination)

theorem geometryOf_of_lt {plan : Plan} (fits : plan.input.width * plan.channels < Size.limit) :
    geometryOf plan = .ok plan.geometry := by
  rw [geometryOf, Size.mul_of_lt fits]
  rfl

theorem geometryOf_of_le {plan : Plan} (large : Size.limit ≤ plan.input.width * plan.channels) :
    geometryOf plan = .error (.overflow .multiply) := by
  rw [geometryOf, Size.mul_of_le large]
  rfl

/-- A routine comes from the row of its plan, and its blocks are those of the plan. -/
theorem exists_row_of_ofPlan {plan : Plan} {routine : Routine}
    (emitted : ofPlan plan = .ok routine) :
    ∃ row, DataPath.select? plan.algorithm plan.source plan.destination = some row ∧
      plan.instructionSet.vectorBytes / row.laneBytes = plan.block ∧
      routine = ⟨row.path, plan.geometry, plan.instructionSet.vectorBytes / row.laneBytes,
        plan.instructionSet⟩ := by
  unfold ofPlan at emitted
  split at emitted
  · cases emitted
  · rename_i row selected
    simp only at emitted
    split at emitted
    · rename_i blockEq
      by_cases rowFits : plan.input.width * plan.channels < Size.limit
      · rw [geometryOf_of_lt rowFits] at emitted
        exact ⟨row, selected, blockEq, (Except.ok.inj emitted).symm⟩
      · rw [geometryOf_of_le (Nat.le_of_not_lt rowFits)] at emitted
        cases emitted
    · cases emitted

theorem fits_of_ofPlan {plan : Plan} {routine : Routine} (emitted : ofPlan plan = .ok routine) :
    Fits plan routine := by
  rcases exists_row_of_ofPlan emitted with ⟨row, selected, blockEq, rfl⟩
  exact ⟨DataPath.chosen_of_select? selected, rfl, blockEq, rfl⟩

/-- A plan for supported types with the block width of its instruction set has a routine unless
its rows are too long for a machine word. -/
theorem ofPlan_explained {plan : Plan}
    (supported : plan.algorithm.supports plan.source plan.destination = true)
    (blockEq : plan.block = plan.instructionSet.blockWidth plan.algorithm plan.source) :
    Cause.Explains
      [⟨Size.limit ≤ plan.input.width * plan.channels, .faulted (.overflow .multiply)⟩]
      (ofPlan plan) := by
  rcases DataPath.exists_select?_iff.mpr supported with ⟨row, selected⟩
  have sameBlock : plan.instructionSet.vectorBytes / row.laneBytes = plan.block := by
    rw [DataPath.laneBytes_of_select? selected, blockEq, InstructionSet.blockWidth]
  apply Cause.Explains.cons
  · intro large
    simp only [ofPlan, selected, if_pos sameBlock, geometryOf_of_le large]
  · intro fits
    simp only [ofPlan, selected, if_pos sameBlock, geometryOf_of_lt (Nat.lt_of_not_le fits)]
    exact Cause.Explains.nil _

end Routine

end IntegerPooling
