import IntegerPooling.Failure
import IntegerPooling.Text.Blank

/-!
# Reading the name of an algorithm

Every algorithm answers to its own name, and the average that counts padding also to the short
name `avg`. An unknown name is refused as it was written.
-/

namespace IntegerPooling

namespace Algorithm

/-- The algorithm with a name in canonical form. -/
def ofName? (name : String) : Option Algorithm :=
  if name = "max" then some maximum
  else if name = "avg" then some averageIncludingPadding
  else if name = "avg_include_padding" then some averageIncludingPadding
  else if name = "avg_exclude_padding" then some averageExcludingPadding
  else none

def parse (text : String) : Except Refusal Algorithm :=
  match ofName? (Text.canonical text) with
  | some algorithm => .ok algorithm
  | none => .error (.unknownAlgorithm text)

@[simp] theorem ofName?_name (algorithm : Algorithm) : ofName? algorithm.name = some algorithm := by
  cases algorithm <;> decide

end Algorithm

end IntegerPooling
