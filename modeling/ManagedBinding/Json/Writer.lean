import ManagedBinding.Json.Basic
import ManagedBinding.Number.Numeral

/-!
JSON text of a value, without blanks between its parts.
-/

namespace ManagedBinding.Json

/-- A hexadecimal digit in lower case. -/
def hexDigit (value : Nat) : Char :=
  Nat.digitChar (value % 16)

/-- The escape of a code unit by its four hexadecimal digits. -/
def unicodeEscape (unit : Nat) : String :=
  String.ofList
    ['\\', 'u', hexDigit (unit / 4096), hexDigit (unit / 256),
      hexDigit (unit / 16), hexDigit unit]

/-- A character as it stands in a JSON string: quotes, backslashes and
control characters are escaped. -/
def escapeChar (char : Char) : String :=
  if char = '"' then
    "\\\""
  else if char = '\\' then
    "\\\\"
  else if char.toNat < 0x20 then
    unicodeEscape char.toNat
  else
    String.singleton char

/-- A JSON string literal. -/
def quote (text : String) : String :=
  text.foldl (fun quoted char => quoted ++ escapeChar char) "\"" ++ "\""

/-- The text of a number. There is no numeral for an infinite number. -/
def numberText : JsonNumber → String
  | .integer value => toString value
  | .fraction (.finite negative significand exponent) =>
      (Number.Binary64.finite negative significand exponent).text .compact
  | .fraction _ => "null"

mutual

/-- The JSON text of a value. -/
def text : Json → String
  | .null => "null"
  | .boolean value => if value then "true" else "false"
  | .number value => numberText value
  | .string value => quote value
  | .array items => "[" ++ itemsText items ++ "]"
  | .object fields => "\x7b" ++ fieldsText fields ++ "\x7d"

def itemsText : List Json → String
  | [] => ""
  | [item] => text item
  | item :: next :: rest => text item ++ "," ++ itemsText (next :: rest)

def fieldsText : List (String × Json) → String
  | [] => ""
  | [(key, value)] => quote key ++ ":" ++ text value
  | (key, value) :: next :: rest =>
      quote key ++ ":" ++ text value ++ "," ++ fieldsText (next :: rest)

end

end ManagedBinding.Json
