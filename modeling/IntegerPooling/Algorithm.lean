/-!
# Pooling algorithms

What a window of elements is reduced to: its maximum, or one of two averages that differ in
whether padded positions count towards the divisor.
-/

namespace IntegerPooling

/-- The reductions a pooling operator can apply to its windows. -/
inductive Algorithm where
  | maximum
  /-- The sum of the window over the full size of the kernel: padding counts as zero. -/
  | averageIncludingPadding
  /-- The sum of the window over the number of positions inside the input. -/
  | averageExcludingPadding
deriving DecidableEq, Repr

namespace Algorithm

def name : Algorithm → String
  | maximum => "max"
  | averageIncludingPadding => "avg_include_padding"
  | averageExcludingPadding => "avg_exclude_padding"

def isAverage : Algorithm → Bool
  | maximum => false
  | averageIncludingPadding => true
  | averageExcludingPadding => true

end Algorithm

end IntegerPooling
