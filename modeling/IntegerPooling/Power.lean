/-!
# Powers of natural numbers

The bounds of the library are powers of natural numbers, in modules that use Mathlib and in modules
that do without it. Mathlib brings powers of its own, those of a monoid; the powers of the core
library come first everywhere, so that a bound is the same term in both kinds of modules.
-/

attribute [instance (20000), default_instance (20000)] instPowNat
