import IntegerPooling.Binary32.Scale
import IntegerPooling.Operator.Basic

/-!
# Pooling by definition

This module says what pooling is, one output element at a time and one tap after the other. A tap
whose position falls outside the input is skipped; what remains is reduced to the maximum or to
the average. There are no blocks and no clipped windows here, and any operator is accepted, also
one for which no kernel can be built.

Positions are computed in machine words and compared as signed numbers, so the input and its
padding have to stay below half the range of a word for the result to be meaningful.
-/

namespace IntegerPooling

namespace Direct

/-- The input position of a tap along one axis, if it lies inside the input. -/
def coordinate? (axis : Axis) (index tap : Nat) : Except Fault (Option Nat) := do
  let position ← Size.add (← Size.mul index axis.stride) tap
  let shifted ← Size.signedSub (Size.signed position) (Size.signed axis.before)
  if shifted < 0 ∨ Size.signed axis.extent ≤ shifted then
    return none
  else
    return some shifted.toNat

def element {t : ElementType} (source : Array (Element t)) (place : Nat) :
    Except Fault (Element t) :=
  match source[place]? with
  | some value => .ok value
  | none => .error (.outOfBounds source.size place)

/-- The elements of one row of taps that lie inside the input. -/
def rowElements {t : ElementType} (operator : Operator) (layout : Layout)
    (source : Array (Element t)) (image channel row column : Nat) :
    Except Fault (List (Element t)) := do
  let found ← (List.range operator.kernel.width).mapM fun tap => do
    match ← coordinate? (operator.horizontal layout.extent) column tap with
    | none => return none
    | some inputColumn =>
      return some (← element source (← layout.offset image channel row inputColumn))
  return found.filterMap id

/-- The elements of a window that lie inside the input, row by row. -/
def windowElements {t : ElementType} (operator : Operator) (layout : Layout)
    (source : Array (Element t)) (image channel row column : Nat) :
    Except Fault (List (Element t)) := do
  let rows ← (List.range operator.kernel.height).mapM fun tap => do
    match ← coordinate? (operator.vertical layout.extent) row tap with
    | none => return []
    | some inputRow => rowElements operator layout source image channel inputRow column
  return rows.flatten

/-- The greatest of the elements, the least value of the type if there are none. -/
def greatest {t : ElementType} (elements : List (Element t)) : Element t :=
  elements.foldl Element.max (Element.lowest t)

def sum {t : ElementType} (elements : List (Element t)) : Element .s32 :=
  elements.foldl Element.addWrapping Element.zero

/-- A sum divided by a count, rounded and clamped into the destination type. -/
def average (d : ElementType) (total : Element .s32) (count : Nat) : Element d :=
  Element.saturate d (Binary32.scale total (Binary32.perCount count))

def outputElement {s : ElementType} (operator : Operator) (d : ElementType)
    (elements : List (Element s)) : Except Fault (Element d) :=
  match operator.algorithm with
  | .maximum => .ok (Element.saturate d (greatest elements).widen)
  | .averageIncludingPadding => do
    return average d (sum elements) (← Size.mul operator.kernel.height operator.kernel.width)
  | .averageExcludingPadding => .ok (average d (sum elements) elements.length)

/-- The places of the output elements in the order in which they are kept: image, row, column and
channel. -/
def places (destination : Layout) : List (Nat × Nat × Nat × Nat) :=
  (List.range destination.batch).flatMap fun image =>
    (List.range destination.extent.height).flatMap fun row =>
      (List.range destination.extent.width).flatMap fun column =>
        (List.range destination.channels).map fun channel => (image, row, column, channel)

/-- The output of an operator on a source, element by element. -/
def pool {s : ElementType} (operator : Operator) (d : ElementType) (batch channels : Nat)
    (extent : Spatial) (source : List (Element s)) : Except Fault (List (Element d)) := do
  let layout : Layout := ⟨batch, channels, extent, s.dataType⟩
  let destination ← operator.destination layout d.dataType
  let expected ← layout.elementCount
  if source.length ≠ expected then
    throw (.sourceLength source.length expected)
  let _ ← destination.allocation
  let elements := source.toArray
  (places destination).mapM fun place => do
    let (image, row, column, channel) := place
    outputElement operator d (← windowElements operator layout elements image channel row column)

end Direct

end IntegerPooling
