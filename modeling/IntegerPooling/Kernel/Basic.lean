import IntegerPooling.Journal
import IntegerPooling.Operator.Plan
import IntegerPooling.Routine

/-!
# Kernels

A kernel is a plan with its routine. Once built it never changes and can run on any number of
sources.
-/

namespace IntegerPooling

structure Kernel where
  plan : Plan
  routine : Routine
deriving DecidableEq, Repr

namespace Kernel

def ofPlan (plan : Plan) : Except Failure Kernel := do
  return ⟨plan, ← Routine.ofPlan plan⟩

def assemble (operator : Operator) (source destination : Layout) (host : Capabilities)
    (options : Options) : Except Failure Kernel := do
  ofPlan (← operator.plan source destination host options)

def build (operator : Operator) (source destination : Layout) (host : Capabilities)
    (options : Options) : Journaled (Except Failure Kernel) :=
  match assemble operator source destination host options with
  | .ok kernel => ⟨.ok kernel, [.built kernel.plan]⟩
  | .error failure => ⟨.error failure, []⟩

def sourceLayout (kernel : Kernel) : Layout :=
  kernel.plan.sourceLayout

def destinationLayout (kernel : Kernel) : Layout :=
  kernel.plan.destinationLayout

end Kernel

end IntegerPooling
