import ManagedBinding.Number.Binary64
import ManagedBinding.Number.Digits
import ManagedBinding.Number.Range
import ManagedBinding.Text.Wrap

/-!
Numerals: integers in base ten, integers in another base behind its mark, and
floats. Underscores may group the digits. An integer in base ten that has
underscores is known by its first digits alone; it counts as out of range when
something else than digits follows them.
-/

namespace ManagedBinding.Toml

inductive Numeral
  | integer (value : Int)
  | integerOutOfRange
  | float (value : Number.Binary64)
  | floatOutOfRange
  deriving DecidableEq, Repr

namespace Numeral

/-- An underscore may stand between two groups of characters: there is a digit
on either side of it. -/
def isJoint (isDigit : Char → Bool) (before after : List Char) : Bool :=
  before.getLast?.any isDigit && after.head?.any isDigit

/-- Drop the underscores, each of which must join two groups. -/
def ungroup? (isDigit : Char → Bool) (chars : List Char) :
    Option (List Char) :=
  let groups := Text.splitAtChar '_' chars
  let neighbours := groups.zip (groups.drop 1)
  if neighbours.all fun pair => isJoint isDigit pair.1 pair.2 then
    some groups.flatten
  else
    none

/-- The integers in range are those that 128 bits hold, with a sign or without
one. -/
def ofInt (value : Int) : Numeral :=
  if Number.fitsEither 128 value then
    .integer value
  else
    .integerOutOfRange

/-- Cut off a sign; there may be none. -/
def readSign : List Char → Bool × List Char
  | '-' :: rest => (true, rest)
  | '+' :: rest => (false, rest)
  | chars => (false, chars)

/-- Decimal digits; there is at least one. -/
def digits? (chars : List Char) : Option (List Char) :=
  if chars.isEmpty || !chars.all Char.isDigit then none else some chars

/-- The value of decimal digits behind an optional sign. -/
def signedValue? (chars : List Char) : Option Int := do
  let (negative, unsigned) := readSign chars
  let magnitude : Int := Number.ofDecimalDigits (← digits? unsigned)
  return if negative then -magnitude else magnitude

def isHexDigit (char : Char) : Bool := (Number.digitValue? char).isSome

/-- An integer in another base than ten, behind the mark of the base. Without
any digits it is out of range. -/
def basedInteger? (base : Nat) (chars : List Char) : Option Numeral := do
  let digits ← ungroup? isHexDigit chars
  let value ← Number.ofDigits? base digits
  return if digits.isEmpty then .integerOutOfRange else ofInt value

/-- The text behind a sign begins as an integer in base ten: digits without a
leading zero stand up to its end or up to an underscore, and nothing in it
makes it a float. -/
def beginsAsInteger (unsigned : List Char) : Bool :=
  let behind := unsigned.dropWhile Char.isDigit
  let isForeign := fun char =>
    char = ' ' || char = '.' || char = 'e' || char = 'E'
  !unsigned.isEmpty &&
    (unsigned.head? != some '0' || unsigned.length == 1) &&
    (behind.isEmpty || behind.head? == some '_') &&
    !unsigned.any isForeign

/-- An integer in base ten with an optional sign. Letters up to `f` count as
digits next to an underscore. -/
def decimalInteger? (chars : List Char) : Option Numeral :=
  if beginsAsInteger (readSign chars).2 then
    (ungroup? isHexDigit chars).map fun text =>
      match signedValue? text with
      | some value => ofInt value
      | none => .integerOutOfRange
  else
    none

/-- An integer of any base. -/
def integer? (chars : List Char) : Option Numeral :=
  match chars with
  | '0' :: 'x' :: digits => basedInteger? 16 digits
  | '0' :: 'o' :: digits => basedInteger? 8 digits
  | '0' :: 'b' :: digits => basedInteger? 2 digits
  | _ => decimalInteger? chars

/-- A finite float; it has a fraction, an exponent or both. -/
def decimalFloat? (chars : List Char) : Option Numeral := do
  let (negative, unsigned) := readSign (← ungroup? Char.isDigit chars)
  let isExponentLetter := fun char => char = 'e' || char = 'E'
  let mantissa := unsigned.takeWhile (!isExponentLetter ·)
  let exponentPart := unsigned.dropWhile (!isExponentLetter ·)
  let whole ← digits? (mantissa.takeWhile (· ≠ '.'))
  let fractionPart := mantissa.dropWhile (· ≠ '.')
  let fraction ←
    match fractionPart with
    | [] => some []
    | _ :: digits => digits? digits
  let exponent ←
    match exponentPart with
    | [] => some 0
    | _ :: digits => signedValue? digits
  let hasLeadingZero := whole.head? = some '0' ∧ whole.length ≠ 1
  if (fractionPart.isEmpty ∧ exponentPart.isEmpty) ∨ hasLeadingZero then
    none
  else
    let value :=
      Number.Binary64.ofDecimal negative
        (Number.ofDecimalDigits (whole ++ fraction))
        (exponent - fraction.length)
    match value with
    | .finite _ _ _ => return .float value
    | _ => return .floatOutOfRange

/-- A float: a finite one, or an infinite one, or one that is no number. -/
def float? (chars : List Char) : Option Numeral :=
  let (negative, unsigned) := readSign chars
  if unsigned = ['i', 'n', 'f'] then
    some (.float (.infinite negative))
  else if unsigned = ['n', 'a', 'n'] then
    some (.float .notANumber)
  else
    decimalFloat? chars

/-- An integer or a float. -/
def ofChars? (chars : List Char) : Option Numeral :=
  (integer? chars).or (float? chars)

end Numeral

end ManagedBinding.Toml
