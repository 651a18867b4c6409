import ManagedBinding.Text.Invisible

/-!
Quoted texts as they stand in messages: between double quotes, with escapes
for quotes, backslashes, control characters and invisible characters.
-/

namespace ManagedBinding.Text

/-- The code point in hexadecimal digits, in braces behind `\u`. -/
def codePointEscape (char : Char) : String :=
  "\\u\x7b" ++ String.ofList (Nat.toDigits 16 char.toNat) ++ "\x7d"

/-- A character as it stands in a quoted text. -/
def quotedChar (char : Char) : String :=
  if char = '\x00' then "\\0"
  else if char = '\t' then "\\t"
  else if char = '\n' then "\\n"
  else if char = '\r' then "\\r"
  else if char = '"' then "\\\""
  else if char = '\\' then "\\\\"
  else if char.toNat < 0x20 ∨ char.toNat = 0x7F ∨ isInvisible char then
    codePointEscape char
  else
    String.singleton char

/-- A text between double quotes. -/
def quoted (text : String) : String :=
  text.foldl (fun done char => done ++ quotedChar char) "\"" ++ "\""

end ManagedBinding.Text
