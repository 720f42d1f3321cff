import IntegerPooling.Plan

/-!
# Notices

Building a kernel, filling a cache and starting a run each leave a notice. Functions that do so
return their outcome together with the notices, in the order in which they were left; a failed
outcome keeps the notices that came before the failure.
-/

namespace IntegerPooling

/-- What a computation reports on its way. -/
inductive Notice where
  | built (plan : Plan)
  | pooling (plan : Plan)
  /-- A kernel entered a cache that now has this many entries. -/
  | cached (entries : Nat)
deriving DecidableEq, Repr

/-- An outcome and the notices left on the way to it. -/
structure Journaled (α : Type) where
  outcome : α
  notices : List Notice

namespace Notice

def level : Notice → String
  | built _ => "debug"
  | pooling _ => "trace"
  | cached _ => "debug"

def message : Notice → String
  | built plan =>
      "built " ++ plan.algorithm.name ++ " pooling kernel: " ++ plan.source.name ++ " -> " ++
        plan.destination.name ++ ", isa=" ++ plan.instructionSet.label ++
        s!", c={plan.channels}, c_block={plan.block}, c_tail={plan.tail}, ur_c={plan.unroll}"
  | pooling plan =>
      s!"pooling {plan.batch}x{plan.output.height}x{plan.output.width} output pixels, " ++
        s!"{plan.channels} channels"
  | cached entries => s!"kernel cache miss, {entries} entries cached"

def line (notice : Notice) : String :=
  notice.level ++ ": " ++ notice.message

end Notice

end IntegerPooling
