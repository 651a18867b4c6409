import ManagedBinding.Toml.DateTime
import ManagedBinding.Toml.Numeral
import ManagedBinding.Toml.Quoted

/-!
Scalars: strings, numbers, truth values, dates and times. A scalar without
quotes reaches as far as no character of another meaning ends it, and must
then be one of these as a whole.
-/

namespace ManagedBinding.Toml

/-- A value without parts. The parts of a date or a time are not kept. -/
inductive Scalar
  | string (value : String)
  | number (numeral : Numeral)
  | boolean (value : Bool)
  | dateTime
  deriving DecidableEq, Repr

/-- The character may stand in a scalar without quotes. -/
def isScalarChar (char : Char) : Bool :=
  !(isLineBlank char || char = '\n' || char = '\r' || char = '#' ||
    char = '=' || char = ',' || char = '[' || char = ']' ||
    char = '\x7b' || char = '\x7d')

/-- A scalar that stood before blanks goes on here. A quote does not go on
with it. -/
def resumesScalar (chars : List Char) : Bool :=
  chars.head?.any fun char =>
    isScalarChar char && char != '"' && char != '\x27'

/-- The text of the scalar at the front. Blanks belong to it if it goes on
behind them. -/
def scalarText : List Char → List Char
  | [] => []
  | char :: rest =>
      if isScalarChar char ||
          (isLineBlank char && resumesScalar (skipLineBlanks rest)) then
        char :: scalarText rest
      else
        []

/-- The value of a scalar without quotes. -/
def Scalar.ofChars? (chars : List Char) : Option Scalar :=
  if chars = ['t', 'r', 'u', 'e'] then
    some (.boolean true)
  else if chars = ['f', 'a', 'l', 's', 'e'] then
    some (.boolean false)
  else if isDateTime chars then
    some .dateTime
  else
    (Numeral.ofChars? chars).map .number

def readScalar (chars : List Char) : Option (Scalar × List Char) :=
  match chars.head? with
  | none => none
  | some first =>
      if first = '"' ∨ first = '\x27' then
        (readQuoted chars).map fun (body, rest) =>
          (.string (String.ofList body), rest)
      else
        let text := scalarText chars
        (Scalar.ofChars? text).map fun value =>
          (value, chars.drop text.length)

end ManagedBinding.Toml
