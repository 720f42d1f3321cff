import IntegerPooling.Kernel.Basic
import IntegerPooling.Proofs.Operator.Obstacles

/-!
# What a request for a kernel leads to

Building a kernel fails for the first obstacle that stands against it and for nothing else, and
succeeds whenever there is none (`build_decided`). The only obstacle that is not found while
planning is a row too long for a machine word; a plan never meets a routine with other blocks or
no routine at all.
-/

namespace IntegerPooling

namespace Operator

/-- What can stand against a plan, in the order in which it is reported. -/
def planObstacles (operator : Operator) (source destination : Layout) (host : Capabilities)
    (options : Options) : List (Cause Failure) :=
  [options.instructionSet.obstacle host] ++
    ([operator.typeObstacle source.dataType destination.dataType] ++
      (operator.shapeObstacles source destination ++ [optionObstacle options]))

theorem plan_explained (operator : Operator) (source destination : Layout) (host : Capabilities)
    (options : Options) :
    Cause.Explains (operator.planObstacles source destination host options)
      (operator.plan source destination host options) := by
  rw [planObstacles, plan]
  apply Cause.Explains.bind (Preference.select_explained options.instructionSet host)
  intro set _
  apply Cause.Explains.bind
    (operator.checkTypes_explained source.dataType destination.dataType)
  intro _ _
  apply Cause.Explains.bind (operator.checkShapes_explained source destination)
  intro _ _
  exact (validate_explained options).map fun _ =>
    operator.toPlan source destination set options.unroll

/-- What a plan that was made tells about its request. -/
structure Planned (operator : Operator) (source destination : Layout) (host : Capabilities)
    (options : Options) (plan : Plan) : Prop where
  settled : options.instructionSet.SettlesOn host plan.instructionSet
  supported : operator.algorithm.supports source.dataType destination.dataType = true
  suits : operator.Suits source destination
  plan_eq : plan = operator.toPlan source destination plan.instructionSet options.unroll

theorem planned_of_plan {operator : Operator} {source destination : Layout} {host : Capabilities}
    {options : Options} {plan : Plan}
    (planned : operator.plan source destination host options = .ok plan) :
    operator.Planned source destination host options plan := by
  simp only [Operator.plan, Outcome.bind_eq_ok_iff, Outcome.mapError_eq_ok_iff] at planned
  rcases planned with ⟨set, selected, _, typed, _, shaped, _, _, same⟩
  cases same
  have supported : operator.algorithm.supports source.dataType destination.dataType = true := by
    unfold checkTypes at typed
    split at typed
    · assumption
    · cases typed
  have absent := (operator.checkShapes_explained source destination).succeeded_iff.mp ⟨_, shaped⟩
  exact {
    settled := Preference.settlesOn_of_select selected
    supported := supported
    suits := suits_of_absent absent
    plan_eq := rfl }

namespace Planned

variable {operator : Operator} {source destination : Layout} {host : Capabilities}
  {options : Options} {plan : Plan}

theorem sourceLayout_eq (planned : operator.Planned source destination host options plan) :
    plan.sourceLayout = source := by
  rw [planned.plan_eq]
  rfl

theorem destinationLayout_eq (planned : operator.Planned source destination host options plan) :
    plan.destinationLayout = destination := by
  have batchEq := planned.suits.batch_eq
  have channelsEq := planned.suits.channels_eq
  rcases destination with ⟨batch, channels, extent, dataType⟩
  simp only at batchEq channelsEq
  subst batchEq channelsEq
  rw [planned.plan_eq]
  rfl

theorem block_pos (planned : operator.Planned source destination host options plan) :
    0 < plan.block := by
  rw [planned.plan_eq]
  exact InstructionSet.blockWidth_pos _ _ _

end Planned

end Operator

namespace Kernel

/-- What can stand against a kernel, in the order in which it is reported. -/
def obstacles (operator : Operator) (source destination : Layout) (host : Capabilities)
    (options : Options) : List (Cause Failure) :=
  operator.planObstacles source destination host options ++
    [⟨Size.limit ≤ source.extent.width * source.channels, .faulted (.overflow .multiply)⟩]

/-- What a kernel that was built tells about its request. -/
structure Built (operator : Operator) (source destination : Layout) (host : Capabilities)
    (options : Options) (kernel : Kernel) : Prop where
  planned : operator.Planned source destination host options kernel.plan
  fits : Routine.Fits kernel.plan kernel.routine

theorem outcome_build (operator : Operator) (source destination : Layout) (host : Capabilities)
    (options : Options) :
    (build operator source destination host options).outcome =
      assemble operator source destination host options := by
  rw [build]
  split <;> rename_i assembled <;> exact assembled.symm

theorem built_of_build {operator : Operator} {source destination : Layout} {host : Capabilities}
    {options : Options} {kernel : Kernel}
    (built : (build operator source destination host options).outcome = .ok kernel) :
    Built operator source destination host options kernel := by
  simp only [outcome_build, assemble, ofPlan, Outcome.bind_eq_ok_iff] at built
  rcases built with ⟨plan, planned, routine, emitted, same⟩
  cases same
  exact ⟨Operator.planned_of_plan planned, Routine.fits_of_ofPlan emitted⟩

theorem emission_explained {operator : Operator} {source destination : Layout}
    {host : Capabilities} {options : Options} {plan : Plan}
    (planned : operator.Planned source destination host options plan) :
    Cause.Explains
      [⟨Size.limit ≤ source.extent.width * source.channels, .faulted (.overflow .multiply)⟩]
      (Routine.ofPlan plan) := by
  obtain ⟨set, rfl⟩ : ∃ set, plan = operator.toPlan source destination set options.unroll :=
    ⟨_, planned.plan_eq⟩
  exact @Routine.ofPlan_explained (operator.toPlan source destination set options.unroll)
    planned.supported rfl

theorem build_explained (operator : Operator) (source destination : Layout) (host : Capabilities)
    (options : Options) :
    Cause.Explains (obstacles operator source destination host options)
      (build operator source destination host options).outcome := by
  rw [outcome_build, assemble]
  apply Cause.Explains.bind (operator.plan_explained source destination host options)
  intro plan planned
  rw [ofPlan]
  exact (emission_explained (Operator.planned_of_plan planned)).map fun routine =>
    (⟨plan, routine⟩ : Kernel)

/-- Whether a kernel can be built is decided by the host and the options on the one hand and by the
operator and its layouts on the other. -/
theorem exists_build_iff {operator : Operator} {source destination : Layout} {host : Capabilities}
    {options : Options} :
    (∃ kernel, (build operator source destination host options).outcome = .ok kernel) ↔
      (¬(options.instructionSet.obstacle host).applies ∧
        ¬(Operator.optionObstacle options).applies) ∧
      ¬(operator.typeObstacle source.dataType destination.dataType).applies ∧
      Cause.Absent (operator.shapeObstacles source destination) ∧
      source.extent.width * source.channels < Size.limit := by
  have noMore : Cause.Absent ([] : List (Cause Failure)) := List.forall_mem_nil _
  rw [(build_explained operator source destination host options).succeeded_iff]
  simp only [obstacles, Operator.planObstacles, Cause.absent_append, Cause.absent_cons,
    Nat.not_le]
  constructor
  · rintro ⟨⟨⟨settled, _⟩, ⟨typed, _⟩, shaped, inRange, _⟩, row, _⟩
    exact ⟨⟨settled, inRange⟩, typed, shaped, row⟩
  · rintro ⟨⟨settled, inRange⟩, typed, shaped, row⟩
    exact ⟨⟨⟨settled, noMore⟩, ⟨typed, noMore⟩, shaped, inRange, noMore⟩, row, noMore⟩

/-- The first obstacle that applies decides the outcome of a build; without one a kernel is built,
for exactly the given layouts, and its routine works on the blocks of its plan. -/
theorem build_decided (operator : Operator) (source destination : Layout) (host : Capabilities)
    (options : Options) :
    Cause.Explains (obstacles operator source destination host options)
        (build operator source destination host options).outcome ∧
      (∀ kernel, (build operator source destination host options).outcome = .ok kernel →
        kernel.sourceLayout = source ∧ kernel.destinationLayout = destination ∧
          options.instructionSet.SettlesOn host kernel.plan.instructionSet ∧
          kernel.routine.instructionSet = kernel.plan.instructionSet ∧
          kernel.plan.channels = kernel.plan.fullBlocks * kernel.plan.block + kernel.plan.tail ∧
          kernel.plan.tail < kernel.plan.block ∧ kernel.routine.block = kernel.plan.block) ∧
      ∀ plan, operator.plan source destination host options = .ok plan →
        (∃ routine, Routine.ofPlan plan = .ok routine) ∨
          (Size.limit ≤ source.extent.width * source.channels ∧
            Routine.ofPlan plan = .error (.faulted (.overflow .multiply))) := by
  refine ⟨build_explained operator source destination host options, ?_, ?_⟩
  · intro kernel outcome
    have built := built_of_build outcome
    have planned := built.planned
    exact ⟨planned.sourceLayout_eq, planned.destinationLayout_eq, planned.settled,
      built.fits.instructionSet_eq, kernel.plan.fullBlocks_mul_add_tail.symm,
      Nat.mod_lt _ planned.block_pos, built.fits.block_eq⟩
  · intro plan planned
    have explained := emission_explained (Operator.planned_of_plan planned)
    cases emitted : Routine.ofPlan plan with
    | ok routine => exact Or.inl ⟨routine, rfl⟩
    | error failure =>
      have decided := (explained.failed_iff failure).mp emitted
      rcases decided with ⟨large, same⟩ | ⟨_, impossible⟩
      · exact Or.inr ⟨large, by rw [same]⟩
      · exact impossible.elim

end Kernel

end IntegerPooling
