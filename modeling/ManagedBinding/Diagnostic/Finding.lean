import ManagedBinding.Number.Numeral
import ManagedBinding.Number.Range
import ManagedBinding.Text.Quoted

/-!
What a message says about a value that stands where another kind of value is
expected.
-/

namespace ManagedBinding

/-- The value met in place of the expected one, as far as messages show
it. -/
inductive Finding
  | null
  | boolean (value : Bool)
  | integer (value : Int)
  | fraction (value : Number.Binary64)
  | string (value : String)
  | sequence
  | map
  deriving DecidableEq, Repr

/-- What is added to an integer that 64 bits do not hold, with or without a
sign: the kind of integer that holds it. -/
def wideIntegerNote (value : Int) : String :=
  if Number.fitsEither 64 value then
    ""
  else if Number.fitsSigned 128 value then
    " as i128"
  else
    " as u128"

/-- The wording of a finding; `style` says how doubles are written. -/
def Finding.wording (style : Number.NumeralStyle) : Finding → String
  | .null => "null"
  | .boolean value =>
      "boolean `" ++ (if value then "true" else "false") ++ "`"
  | .integer value =>
      "integer `" ++ toString value ++ "`" ++ wideIntegerNote value
  | .fraction value => "floating point `" ++ value.text style ++ "`"
  | .string value => "string " ++ Text.quoted value
  | .sequence => "sequence"
  | .map => "map"

end ManagedBinding
