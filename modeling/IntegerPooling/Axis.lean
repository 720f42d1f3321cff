import IntegerPooling.Size

/-!
# One axis of a pooling operator

Height and width follow the same rules, so they are stated for one axis. A kernel of `kernel`
positions starts at every multiple of `stride` in an input of `extent` positions, of which
`before` positions of padding come first. `positions` counts the places where the kernel fits,
`clip` gives the part of one place that lies inside the input.
-/

namespace IntegerPooling

/-- The numbers that place a kernel along one axis. -/
structure Axis where
  extent : Nat
  kernel : Nat
  stride : Nat
  before : Nat
deriving DecidableEq, Repr

/-- A run of neighbouring input positions. -/
structure Span where
  start : Nat
  count : Nat
deriving DecidableEq, Repr

namespace Axis

/-- The number of places of the kernel in the padded extent, none if it does not fit at all. -/
def positions (axis : Axis) (after : Nat) : Except Fault Nat := do
  let padded ← Size.add (← Size.add axis.extent axis.before) after
  if padded < axis.kernel ∨ axis.stride = 0 then
    return 0
  else
    Size.add ((padded - axis.kernel) / axis.stride) 1

/-- The part inside the input of a kernel that starts at a position of the padded extent, given
where the input ends in the padded extent. -/
def clip (axis : Axis) (position inputEnd : Nat) : Span :=
  let first := axis.before - position
  let last := min axis.kernel (inputEnd - position)
  ⟨position - axis.before, last - first⟩

/-- The part inside the input of the kernel at its place number `index`. -/
def span (axis : Axis) (index : Nat) : Except Fault Span := do
  let position ← Size.mul index axis.stride
  let inputEnd ← Size.add axis.extent axis.before
  return axis.clip position inputEnd

theorem count_clip_le (axis : Axis) (position inputEnd : Nat) :
    (axis.clip position inputEnd).count ≤ axis.kernel := by
  simp only [clip]
  omega

theorem start_add_count_clip_le {axis : Axis} {position : Nat}
    (nonempty : 0 < (axis.clip position (axis.extent + axis.before)).count) :
    (axis.clip position (axis.extent + axis.before)).start +
      (axis.clip position (axis.extent + axis.before)).count ≤ axis.extent := by
  simp only [clip] at nonempty ⊢
  omega

end Axis

end IntegerPooling
