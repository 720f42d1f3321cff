import IntegerPooling.InstructionSet

/-!
# Options of a pooling kernel

A caller may force an instruction set and choose how many channel blocks one pass over a window
handles. Neither choice is visible in results.
-/

namespace IntegerPooling

/-- Which instruction set to plan for. -/
inductive Preference where
  /-- The widest set the host offers. -/
  | auto
  /-- This set or none. -/
  | force (set : InstructionSet)
deriving DecidableEq, Repr

structure Options where
  instructionSet : Preference
  unroll : Nat
deriving DecidableEq, Repr

namespace Preference

def name : Preference → String
  | auto => "auto"
  | force set => set.name

end Preference

namespace Options

def maxUnroll : Nat :=
  4

def instructionSetVariable : String :=
  "QPOOL_ISA"

def unrollVariable : String :=
  "QPOOL_UNROLL"

/-- The widest set of the host and one block in a pass. -/
def standard : Options :=
  ⟨.auto, 1⟩

def withInstructionSet (options : Options) (set : InstructionSet) : Options :=
  { options with instructionSet := .force set }

def withUnroll (options : Options) (unroll : Nat) : Options :=
  { options with unroll := unroll }

end Options

end IntegerPooling
