import IntegerPooling.Proofs.Binary32.Reciprocal
import IntegerPooling.Proofs.Kernel.Call

/-!
# The factor of a window

The factor that a plan computes for a window is the reciprocal of the window's weight, and plans
whose windows weigh more have no larger factors (`factor_inverts`). Both hold of any plan and any
window, whether or not one belongs to the other; all that is needed is a weight that is not zero and
that a machine word can carry.
-/

namespace IntegerPooling

namespace Plan

variable {plan : Plan} {window : Window}

/-- Every weight of a machine word but zero has a factor that inverts it as far as the format
allows, and a larger weight, of whatever plan and window, has no larger factor. -/
theorem factor_inverts (positive : 1 ≤ plan.weight window)
    (fits : plan.weight window < Size.limit) :
    ∃ factor, plan.factor window = .ok factor ∧ factor.Inverts (plan.weight window) ∧
      ∀ (other : Plan) (otherWindow : Window), plan.weight window ≤ other.weight otherWindow →
        other.weight otherWindow < Size.limit →
        ∃ otherFactor, other.factor otherWindow = .ok otherFactor ∧
          otherFactor.value ≤ factor.value := by
  refine ⟨_, factor_of_lt fits, Binary32.perCount_inverts positive fits, ?_⟩
  intro other otherWindow heavier otherFits
  exact ⟨_, factor_of_lt otherFits, Binary32.value_perCount_antitone positive heavier otherFits⟩

/-- The counts `2 ^ 24 + 1` and `2 ^ 64 - 1` are both rounded to powers of two, the first one as a
tie, so that the factors are powers of two as well. -/
theorem factor_inverts_uneven :
    ∃ factor least : Binary32,
      Plan.factor ⟨.averageExcludingPadding, 1, 1, ⟨2, 2⟩, ⟨1, 1⟩, ⟨2, 2⟩, ⟨1, 1⟩, ⟨0, 0⟩, .s8, .u8,
        .wide, 8, 1⟩ ⟨⟨0, 97⟩, ⟨0, 172961⟩⟩ = .ok factor ∧
      Plan.factor ⟨.averageIncludingPadding, 1, 1, ⟨2, 2⟩, ⟨1, 1⟩, ⟨2 ^ 32 + 1, 2 ^ 32 - 1⟩, ⟨1, 1⟩,
        ⟨0, 0⟩, .s8, .u8, .wide, 8, 1⟩ ⟨⟨0, 2⟩, ⟨0, 2⟩⟩ = .ok least ∧
      factor.Inverts (2 ^ 24 + 1) ∧ factor.toBits = 0x33800000 ∧ least.toBits = 0x1F800000 ∧
      least.value ≤ factor.value := by
  rcases @factor_inverts ⟨.averageExcludingPadding, 1, 1, ⟨2, 2⟩, ⟨1, 1⟩, ⟨2, 2⟩, ⟨1, 1⟩, ⟨0, 0⟩,
    .s8, .u8, .wide, 8, 1⟩ ⟨⟨0, 97⟩, ⟨0, 172961⟩⟩ (by decide) (by decide) with
    ⟨factor, found, inverts, heavier⟩
  rcases heavier ⟨.averageIncludingPadding, 1, 1, ⟨2, 2⟩, ⟨1, 1⟩, ⟨2 ^ 32 + 1, 2 ^ 32 - 1⟩, ⟨1, 1⟩,
    ⟨0, 0⟩, .s8, .u8, .wide, 8, 1⟩ ⟨⟨0, 2⟩, ⟨0, 2⟩⟩ (by decide) (by decide) with
    ⟨least, leastFound, ordered⟩
  refine ⟨factor, least, found, leastFound, inverts, ?_, ?_, ordered⟩
  · cases found
    decide +kernel
  · cases leastFound
    decide +kernel

end Plan

end IntegerPooling
