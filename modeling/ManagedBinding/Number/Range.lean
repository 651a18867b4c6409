/-!
Integers that fit into a number of bits, with or without a sign.
-/

namespace ManagedBinding.Number

/-- The value is written by `bits` bits, the first of which is the sign. -/
def fitsSigned (bits : Nat) (value : Int) : Bool :=
  let bound : Int := Nat.pow 2 (bits - 1)
  decide (-bound ≤ value) && decide (value < bound)

/-- The value is not negative and written by `bits` bits. -/
def fitsUnsigned (bits : Nat) (value : Int) : Bool :=
  let bound : Int := Nat.pow 2 bits
  decide (0 ≤ value) && decide (value < bound)

/-- The value fits with a sign or without one. -/
def fitsEither (bits : Nat) (value : Int) : Bool :=
  fitsSigned bits value || fitsUnsigned bits value

end ManagedBinding.Number
