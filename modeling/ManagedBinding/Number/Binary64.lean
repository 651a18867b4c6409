/-!
Double-precision numbers as exact binary fractions. `ofDecimal` rounds a
decimal numeral to the nearest double, ties to the even significand;
`shiftDecimal` scales a double by a power of ten in double precision;
`shortest` finds the fewest decimal digits that round back to a double.
-/

namespace ManagedBinding.Number

/-- A double. A finite one is `significand * 2 ^ exponent` with its sign; the
significand stays below `2 ^ 53` and the exponent is at least `-1074`. -/
inductive Binary64
  | finite (negative : Bool) (significand : Nat) (exponent : Int)
  | infinite (negative : Bool)
  | notANumber
  deriving DecidableEq, Repr, Inhabited

/-- The number of decimal digits of a natural number; zero has one. -/
def digitCount (value : Nat) : Nat :=
  (Nat.toDigits 10 value).length

/-- The integer nearest to a quotient; a half goes to the even neighbour. -/
def roundHalfEven (numerator denominator : Nat) : Nat :=
  let quotient := numerator / denominator
  let remainder := numerator % denominator
  if denominator < 2 * remainder then
    quotient + 1
  else if denominator = 2 * remainder ∧ quotient % 2 = 1 then
    quotient + 1
  else
    quotient

/-- The double nearest to the quotient of two positive numbers. The exponent
is chosen such that the significand has 53 bits, unless it is the least
exponent. -/
def Binary64.ofRatio
    (negative : Bool) (numerator denominator : Nat) : Binary64 :=
  let estimate : Int :=
    (numerator.log2 : Int) - (denominator.log2 : Int) - 53
  let quotient :=
    (numerator * Nat.pow 2 (-estimate).toNat) /
      (denominator * Nat.pow 2 estimate.toNat)
  let exponent : Int :=
    max (-1074) (if Nat.pow 2 53 ≤ quotient then estimate + 1 else estimate)
  let rounded :=
    roundHalfEven
      (numerator * Nat.pow 2 (-exponent).toNat)
      (denominator * Nat.pow 2 exponent.toNat)
  let carried := rounded = Nat.pow 2 53
  let significand := if carried then Nat.pow 2 52 else rounded
  let exponent := if carried then exponent + 1 else exponent
  if 971 < exponent then
    .infinite negative
  else
    .finite negative significand exponent

/-- The double nearest to `digits * 10 ^ exponent`. Numerals far outside of
the range are decided by their magnitude alone. -/
def Binary64.ofDecimal
    (negative : Bool) (digits : Nat) (exponent : Int) : Binary64 :=
  let magnitude := (digitCount digits : Int) + exponent
  if digits = 0 ∨ magnitude < -400 then
    .finite negative 0 (-1074)
  else if 400 < magnitude then
    .infinite negative
  else
    .ofRatio negative
      (digits * Nat.pow 10 exponent.toNat) (Nat.pow 10 (-exponent).toNat)

/-- A double times a positive fraction, rounded. -/
def Binary64.scale
    (value : Binary64) (numerator denominator : Nat) : Binary64 :=
  match value with
  | .finite negative significand exponent =>
      if significand = 0 then
        value
      else
        .ofRatio negative
          (significand * Nat.pow 2 exponent.toNat * numerator)
          (Nat.pow 2 (-exponent).toNat * denominator)
  | other => other

/-- The double nearest to a power of ten up to `10 ^ 308`, which is a natural
number. -/
def tenPower (exponent : Nat) : Nat :=
  match Binary64.ofDecimal false 1 exponent with
  | .finite _ significand binaryExponent =>
      significand * Nat.pow 2 binaryExponent.toNat /
        Nat.pow 2 (-binaryExponent).toNat
  | _ => 0

/-- A double times a power of ten in double precision: the power is rounded
before it is applied, and the result is rounded once more. Only powers up to
`10 ^ 308` are applied; a larger divisor is applied in steps, and a larger
factor leads out of range. -/
def Binary64.shiftDecimal (value : Binary64) (exponent : Int) : Binary64 :=
  match value with
  | .finite negative significand _ =>
      if significand = 0 then
        value
      else if 308 < exponent then
        .infinite negative
      else if 0 ≤ exponent then
        value.scale (tenPower exponent.toNat) 1
      else if -308 ≤ exponent then
        value.scale 1 (tenPower (-exponent).toNat)
      else
        (value.scale 1 (tenPower 308)).shiftDecimal (exponent + 308)
  | other => other
termination_by (-exponent).toNat

/-- Which of two decimals is taken that lie equally near: the one with an even
last digit, or the larger one. -/
inductive Tie
  | toEven
  | up
  deriving DecidableEq, Repr

/-- Drop the trailing zeros of `digits * 10 ^ exponent`; `fuel` bounds their
number. -/
def dropTrailingZeros : Nat → Nat → Int → Nat × Int
  | 0, digits, exponent => (digits, exponent)
  | fuel + 1, digits, exponent =>
      if digits ≠ 0 ∧ digits % 10 = 0 then
        dropTrailingZeros fuel (digits / 10) (exponent + 1)
      else
        (digits, exponent)

/-- The position of the first decimal digit of a positive binary fraction:
the largest `k` with `10 ^ k ≤ significand * 2 ^ exponent`. -/
def leadingPosition (significand : Nat) (exponent : Int) : Int :=
  let scaled :=
    (significand * Nat.pow 10 400 * Nat.pow 2 exponent.toNat) /
      Nat.pow 2 (-exponent).toNat
  (digitCount scaled : Int) - 401

/-- The multiple of `10 ^ position` that lies nearest to the positive double
among those that round to it; `tie` decides between two of them. All values are compared in quarters of a unit
of the significand; an interval end belongs to the double when its
significand is even. -/
def nearestOnGrid
    (tie : Tie) (significand : Nat) (exponent position : Int) :
    Option Nat :=
  let gridScale := Nat.pow 10 position.toNat * Nat.pow 2 (2 - exponent).toNat
  let binaryScale :=
    Nat.pow 2 (exponent - 2).toNat * Nat.pow 10 (-position).toNat
  let middle := 4 * significand * binaryScale
  let below :=
    if significand = Nat.pow 2 52 ∧ -1074 < exponent then 1 else 2
  let lower := (4 * significand - below) * binaryScale
  let upper := (4 * significand + 2) * binaryScale
  let roundsBack := fun candidate : Nat =>
    let value := candidate * gridScale
    if significand % 2 = 0 then
      decide (lower ≤ value ∧ value ≤ upper)
    else
      decide (lower < value ∧ value < upper)
  let floor := middle / gridScale
  match roundsBack floor, roundsBack (floor + 1) with
  | true, true =>
      let toFloor := middle - floor * gridScale
      let toNext := (floor + 1) * gridScale - middle
      let tieGoesUp := tie = .up ∨ floor % 2 = 1
      if toNext < toFloor ∨ (toNext = toFloor ∧ tieGoesUp) then
        some (floor + 1)
      else
        some floor
  | true, false => some floor
  | false, true => some (floor + 1)
  | false, false => none

/-- The shortest decimal `digits * 10 ^ exponent` that rounds to a positive
double, and the nearest one of that length; `tie` decides between two that
are equally near. Seventeen digits always suffice. -/
def shortest
    (tie : Tie) (significand : Nat) (exponent : Int) : Nat × Int :=
  let leading := leadingPosition significand exponent
  let found :=
    (List.range 17).findSome? fun (count : Nat) =>
      let position := leading - (count : Int)
      (nearestOnGrid tie significand exponent position).map fun digits =>
        dropTrailingZeros 20 digits position
  found.getD (0, 0)

end ManagedBinding.Number
