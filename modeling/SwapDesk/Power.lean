/-!
One meaning for `2 ^ 64`. A power of a number is the built-in one, also in modules that know the
powers of a monoid.
-/

attribute [instance (high + 1), default_instance (high + 1)] instPowNat
