/-!
# Powers

A power of a natural number or of an integer is read with the core operation in every module, also
in one that sees the power of a monoid, so a bound such as `2 ^ 64` is one term throughout.
-/

attribute [instance (high), default_instance (high + 1)] instPowNat
