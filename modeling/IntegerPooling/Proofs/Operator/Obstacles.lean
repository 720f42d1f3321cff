import IntegerPooling.Proofs.Axis
import IntegerPooling.Proofs.Routine

/-!
# Obstacles to planning

An operator is planned unless something stands against it, and of several obstacles the first in a
fixed order is reported: the instruction set, the data types, the shapes from the outermost
dimension inwards, the extent of the destination and the options. Each check of a plan is
explained by its own obstacles; the obstacles of a plan are those lists one after another.
-/

namespace IntegerPooling

namespace Preference

/-- Whether a preference settles on an instruction set: the one it forces, or the widest. -/
def SettlesOn (preference : Preference) (host : Capabilities) (set : InstructionSet) : Prop :=
  match preference with
  | .force forced => set = forced ∧ host.available forced = true
  | .auto =>
    host.available set = true ∧
      ∀ other, host.available other = true → other.vectorBytes ≤ set.vectorBytes

/-- What keeps a preference from settling on an instruction set. -/
def obstacle (preference : Preference) (host : Capabilities) : Cause Failure :=
  match preference with
  | .force forced => ⟨host.available forced = false, .refused (.unavailable forced)⟩
  | .auto => ⟨∀ set, host.available set = false, .refused .noInstructionSet⟩

theorem settlesOn_of_select {preference : Preference} {host : Capabilities} {set : InstructionSet}
    (selected : preference.select host = .ok set) : preference.SettlesOn host set := by
  cases preference with
  | auto =>
    unfold select at selected
    simp only at selected
    split at selected
    · rename_i best found
      cases selected
      exact Capabilities.best?_eq_some_iff.mp found
    · cases selected
  | force forced =>
    unfold select at selected
    simp only at selected
    split at selected
    · rename_i available
      cases selected
      exact ⟨rfl, available⟩
    · cases selected

theorem select_explained (preference : Preference) (host : Capabilities) :
    Cause.Explains [preference.obstacle host]
      ((preference.select host).mapError Failure.refused) := by
  cases preference with
  | auto =>
    apply Cause.Explains.cons
    · intro noneAvailable
      have noBest := Capabilities.best?_eq_none_iff.mpr noneAvailable
      simp only [select, noBest]
      rfl
    · intro someAvailable
      cases found : host.best? with
      | none => exact absurd (Capabilities.best?_eq_none_iff.mp found) someAvailable
      | some set =>
        simp only [select, found]
        exact Cause.Explains.nil set
  | force forced =>
    apply Cause.Explains.cons
    · intro missing
      have unavailable : host.available forced = false := missing
      simp only [select, unavailable]
      rfl
    · intro present
      have available : host.available forced = true := by simpa [obstacle] using present
      simp only [select, available]
      exact Cause.Explains.nil forced

end Preference

namespace Operator

/-- The extent of the output, however large. -/
def expectedExtent (operator : Operator) (input : Spatial) : Spatial :=
  ⟨(operator.vertical input).places operator.after.height,
    (operator.horizontal input).places operator.after.width⟩

/-- What the data types of source and destination can have against an operator. -/
def typeObstacle (operator : Operator) (source destination : DataType) : Cause Failure :=
  ⟨source ∉ [.s8, .u8, .s32] ∨ destination ∉ [.s8, .u8, .s32] ∨
      (operator.algorithm = .maximum ∧ source ≠ destination),
    .refused (.unsupportedTypes operator.algorithm source destination)⟩

/-- What the shapes of source and destination can have against an operator. -/
def shapeObstacles (operator : Operator) (source destination : Layout) : List (Cause Failure) :=
  [⟨source.batch ≠ destination.batch ∨ source.channels ≠ destination.channels,
      .refused (.shape (.batchOrChannels source.batch source.channels destination.batch
        destination.channels))⟩,
    ⟨source.channels = 0, .refused (.shape .noChannels)⟩,
    ⟨source.extent.height = 0 ∨ source.extent.width = 0,
      .refused (.shape (.emptySource source.extent))⟩,
    ⟨operator.kernel.height = 0 ∨ operator.kernel.width = 0 ∨
        operator.stride.height = 0 ∨ operator.stride.width = 0,
      .refused (.shape (.degenerateWindow operator.kernel operator.stride))⟩,
    ⟨operator.kernel.height ≤ operator.before.height ∨
        operator.kernel.height ≤ operator.after.height ∨
        operator.kernel.width ≤ operator.before.width ∨
        operator.kernel.width ≤ operator.after.width,
      .refused (.shape (.widePadding operator.before operator.after operator.kernel))⟩,
    ⟨Size.limit ≤ source.extent.height + operator.before.height + operator.after.height ∨
        Size.limit ≤ source.extent.width + operator.before.width + operator.after.width,
      .faulted (.overflow .add)⟩,
    ⟨destination.extent ≠ operator.expectedExtent source.extent,
      .refused (.shape (.destinationExtent destination.extent
        (operator.expectedExtent source.extent)))⟩]

def optionObstacle (options : Options) : Cause Failure :=
  ⟨options.unroll < 1 ∨ 4 < options.unroll, .refused (.option (.unrollOutOfRange options.unroll))⟩

theorem checkTypes_explained (operator : Operator) (source destination : DataType) :
    Cause.Explains [operator.typeObstacle source destination]
      ((operator.checkTypes source destination).mapError Failure.refused) := by
  have unsupported : operator.algorithm.supports source destination = false ↔
      (operator.typeObstacle source destination).applies := by
    simp only [Algorithm.supports, typeObstacle, ← DataType.isPoolable_iff]
    cases operator.algorithm <;> cases source.isPoolable <;> cases destination.isPoolable <;> simp
  apply Cause.Explains.cons
  · intro applies
    simp only [checkTypes, unsupported.mpr applies]
    rfl
  · intro absent
    have supported : operator.algorithm.supports source destination = true := by
      rw [← Bool.not_eq_false, unsupported]
      exact absent
    simp only [checkTypes, supported]
    exact Cause.Explains.nil ()

theorem outputExtent_of_fits {operator : Operator} {input : Spatial}
    (kernelPos : 0 < operator.kernel.height ∧ 0 < operator.kernel.width)
    (heightFits : (operator.vertical input).padded operator.after.height < Size.limit)
    (widthFits : (operator.horizontal input).padded operator.after.width < Size.limit) :
    operator.outputExtent input = .ok (operator.expectedExtent input) := by
  rw [outputExtent, Axis.positions_of_padded_lt kernelPos.1 heightFits, Outcome.ok_bind,
    Axis.positions_of_padded_lt kernelPos.2 widthFits]
  rfl

theorem outputExtent_of_overflow {operator : Operator} {input : Spatial}
    (kernelPos : 0 < operator.kernel.height ∧ 0 < operator.kernel.width)
    (overflows : Size.limit ≤ (operator.vertical input).padded operator.after.height ∨
      Size.limit ≤ (operator.horizontal input).padded operator.after.width) :
    operator.outputExtent input = .error (.overflow .add) := by
  rw [outputExtent]
  by_cases heightFits : (operator.vertical input).padded operator.after.height < Size.limit
  · rw [Axis.positions_of_padded_lt kernelPos.1 heightFits, Outcome.ok_bind,
      Axis.positions_of_le_padded (overflows.resolve_left (Nat.not_le_of_lt heightFits)),
      Outcome.error_bind]
  · rw [Axis.positions_of_le_padded (Nat.le_of_not_lt heightFits), Outcome.error_bind]

theorem checkShapes_explained (operator : Operator) (source destination : Layout) :
    Cause.Explains (operator.shapeObstacles source destination)
      (operator.checkShapes source destination) := by
  apply Cause.Explains.cons
  · intro differ
    simp only [checkShapes, shapeProblem?, if_pos differ]
  intro sameOuter
  apply Cause.Explains.cons
  · intro noChannels
    simp only [checkShapes, shapeProblem?, if_neg sameOuter, if_pos noChannels]
  intro someChannels
  apply Cause.Explains.cons
  · intro empty
    simp only [checkShapes, shapeProblem?, if_neg sameOuter, if_neg someChannels, if_pos empty]
  intro nonempty
  apply Cause.Explains.cons
  · intro degenerate
    simp only [checkShapes, shapeProblem?, if_neg sameOuter, if_neg someChannels, if_neg nonempty,
      if_pos degenerate]
  intro regular
  apply Cause.Explains.cons
  · intro wide
    simp only [checkShapes, shapeProblem?, if_neg sameOuter, if_neg someChannels, if_neg nonempty,
      if_neg regular, if_pos wide]
  intro narrow
  have noProblem : operator.shapeProblem? source destination = none := by
    simp only [shapeProblem?, if_neg sameOuter, if_neg someChannels, if_neg nonempty,
      if_neg regular, if_neg narrow]
  have kernelPos : 0 < operator.kernel.height ∧ 0 < operator.kernel.width := by
    simp only [not_or] at regular
    omega
  apply Cause.Explains.cons
  · intro overflows
    simp only [checkShapes, noProblem, outputExtent_of_overflow kernelPos overflows]
  intro fits
  simp only [not_or, Nat.not_le] at fits
  have expected := outputExtent_of_fits kernelPos fits.1 fits.2
  apply Cause.Explains.cons
  · intro differs
    simp only [checkShapes, noProblem, expected, if_neg differs]
  intro agrees
  simp only [checkShapes, noProblem, expected, if_pos (Decidable.not_not.mp agrees)]
  exact Cause.Explains.nil ()

theorem validate_explained (options : Options) :
    Cause.Explains [optionObstacle options] (options.validate.mapError Failure.refused) := by
  apply Cause.Explains.cons
  · intro outOfRange
    have rejected : ¬(1 ≤ options.unroll ∧ options.unroll ≤ Options.maxUnroll) := by
      simp only [optionObstacle] at outOfRange
      rw [Options.maxUnroll]
      omega
    simp only [Options.validate, if_neg rejected]
    rfl
  · intro inRange
    have accepted : 1 ≤ options.unroll ∧ options.unroll ≤ Options.maxUnroll := by
      simp only [optionObstacle] at inRange
      rw [Options.maxUnroll]
      omega
    simp only [Options.validate, if_pos accepted]
    exact Cause.Explains.nil ()

/-- The shapes that no obstacle stands against. -/
structure Suits (operator : Operator) (source destination : Layout) : Prop where
  batch_eq : destination.batch = source.batch
  channels_eq : destination.channels = source.channels
  channels_pos : 0 < source.channels
  vertical : (operator.vertical source.extent).Proper operator.after.height
  horizontal : (operator.horizontal source.extent).Proper operator.after.width
  height_fits : (operator.vertical source.extent).padded operator.after.height < Size.limit
  width_fits : (operator.horizontal source.extent).padded operator.after.width < Size.limit
  extent_eq : destination.extent = operator.expectedExtent source.extent

theorem suits_of_absent {operator : Operator} {source destination : Layout}
    (absent : Cause.Absent (operator.shapeObstacles source destination)) :
    operator.Suits source destination := by
  simp only [shapeObstacles, Cause.absent_cons, not_or, Nat.not_le, Decidable.not_not]
    at absent
  rcases absent with ⟨⟨batchEq, channelsEq⟩, channelsNe, ⟨heightNe, widthNe⟩,
    ⟨kernelHeightNe, kernelWidthNe, strideHeightNe, strideWidthNe⟩,
    ⟨topLt, bottomLt, leftLt, rightLt⟩, ⟨heightFits, widthFits⟩, extentEq, _⟩
  exact {
    batch_eq := batchEq.symm
    channels_eq := channelsEq.symm
    channels_pos := Nat.pos_of_ne_zero channelsNe
    vertical := ⟨Nat.pos_of_ne_zero heightNe, Nat.pos_of_ne_zero kernelHeightNe,
      Nat.pos_of_ne_zero strideHeightNe, topLt, bottomLt⟩
    horizontal := ⟨Nat.pos_of_ne_zero widthNe, Nat.pos_of_ne_zero kernelWidthNe,
      Nat.pos_of_ne_zero strideWidthNe, leftLt, rightLt⟩
    height_fits := heightFits
    width_fits := widthFits
    extent_eq := extentEq }

end Operator

end IntegerPooling
