import ManagedBinding.Number.Binary64

/-!
The text of a double: its shortest digits, written positionally or with an
exponent. A `NumeralStyle` says how far positional notation reaches, and which
digits are taken when two choices are equally near.
-/

namespace ManagedBinding.Number

/-- The choices of a notation. The point of a numeral with digits `d₁ … dₙ`
and point position `p` stands behind `dₚ`; positions from `leastPoint` to
`mostPoint` are written without an exponent, and a bound that is absent does
not limit them. -/
structure NumeralStyle where
  leastPoint : Option Int
  mostPoint : Option Int
  tie : Tie
  deriving DecidableEq, Repr

namespace NumeralStyle

/-- Small and large numbers get an exponent. -/
def compact : NumeralStyle := ⟨some (-4), some 16, .toEven⟩

/-- No number gets an exponent. -/
def positional : NumeralStyle := ⟨none, none, .up⟩

/-- The point position is written without an exponent. -/
def isPositional (style : NumeralStyle) (point : Int) : Bool :=
  style.leastPoint.all (fun least => decide (least ≤ point)) &&
    style.mostPoint.all fun most => decide (point ≤ most)

end NumeralStyle

/-- The digits with their point at `point`; there is at least one digit on
either side of it. -/
def positionalText (digits : String) (point : Int) : String :=
  let count : Int := digits.length
  if count ≤ point then
    digits ++ "".pushn '0' (point - count).toNat ++ ".0"
  else if 0 < point then
    (digits.take point.toNat).copy ++ "." ++
      (digits.drop point.toNat).copy
  else
    "0." ++ "".pushn '0' (-point).toNat ++ digits

/-- The digits with their point behind the first of them and an exponent with
its sign. A single digit gets no point. -/
def exponentText (digits : String) (point : Int) : String :=
  let mantissa :=
    if digits.length ≤ 1 then
      digits
    else
      (digits.take 1).copy ++ "." ++ (digits.drop 1).copy
  let sign := if 0 < point then "+" else "-"
  mantissa ++ "e" ++ sign ++ toString (point - 1).natAbs

/-- The shortest numeral of a double. -/
def Binary64.text (style : NumeralStyle) : Binary64 → String
  | .notANumber => "NaN"
  | .infinite negative => (if negative then "-" else "") ++ "inf"
  | .finite negative significand exponent =>
      let unsigned :=
        if significand = 0 then
          "0.0"
        else
          let decimal := shortest style.tie significand exponent
          let digits := toString decimal.1
          let point : Int := digits.length + decimal.2
          if style.isPositional point then
            positionalText digits point
          else
            exponentText digits point
      (if negative then "-" else "") ++ unsigned

end ManagedBinding.Number
