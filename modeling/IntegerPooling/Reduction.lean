import IntegerPooling.Binary32.Scale

/-!
# Reductions

A reduction folds the elements of a window into an accumulator and turns the accumulator into an
output element. The maximum accumulates in the type of the source; the average accumulates a
wrapping 32-bit sum, scales it by a factor and clamps it into the type of the destination.
-/

namespace IntegerPooling

/-- A fold over elements of `α` with accumulators of `σ` and results of `β`. -/
structure Reduction (α σ β : Type) where
  initial : σ
  accumulate : σ → α → σ
  finish : σ → Binary32 → β

namespace Reduction

/-- The greatest element; the factor plays no part. -/
def maximum (t : ElementType) : Reduction (Element t) (Element t) (Element t) where
  initial := Element.lowest t
  accumulate := Element.max
  finish accumulator _ := accumulator

/-- The sum of the elements times the factor. -/
def average (source destination : ElementType) :
    Reduction (Element source) (Element .s32) (Element destination) where
  initial := Element.zero
  accumulate := Element.addWrapping
  finish accumulator factor := Element.saturate destination (Binary32.scale accumulator factor)

variable {α σ β : Type}

def reduce (reduction : Reduction α σ β) (elements : List α) (factor : Binary32) : β :=
  reduction.finish (elements.foldl reduction.accumulate reduction.initial) factor

/-- An accumulator and the ones that follow it as elements are added. -/
def accumulatorsFrom (reduction : Reduction α σ β) (accumulator : σ) : List α → List σ
  | [] => [accumulator]
  | element :: rest =>
    accumulator :: reduction.accumulatorsFrom (reduction.accumulate accumulator element) rest

def accumulators (reduction : Reduction α σ β) (elements : List α) : List σ :=
  reduction.accumulatorsFrom reduction.initial elements

end Reduction

end IntegerPooling
