import ManagedBinding.Json.Basic
import ManagedBinding.Number.Digits
import ManagedBinding.Number.Range

/-!
Reading JSON text. Each step takes what it reads from the front of the
remaining characters; of two fields with one key the later one counts.
-/

namespace ManagedBinding.Json

/-- Drop the characters that may stand between the parts of a value. -/
def skipBlanks (chars : List Char) : List Char :=
  chars.dropWhile fun char =>
    char = ' ' || char = '\t' || char = '\n' || char = '\r'

/-- The code unit that four hexadecimal digits write. -/
def codeUnit? (a b c d : Char) : Option Nat :=
  Number.ofDigits? 16 [a, b, c, d]

/-- The character of an escape by one letter. -/
def letterEscape? (letter : Char) : Option Char :=
  if letter = '"' then some '"'
  else if letter = '\\' then some '\\'
  else if letter = '/' then some '/'
  else if letter = 'b' then some '\x08'
  else if letter = 'f' then some '\x0c'
  else if letter = 'n' then some '\n'
  else if letter = 'r' then some '\r'
  else if letter = 't' then some '\t'
  else none

/-- The scalar value of a pair of surrogates. -/
def surrogatePair? (high low : Nat) : Option Char :=
  if 0xD800 ≤ high ∧ high < 0xDC00 ∧ 0xDC00 ≤ low ∧ low < 0xE000 then
    some (Char.ofNat (0x10000 + (high - 0xD800) * 1024 + (low - 0xDC00)))
  else
    none

/-- Read the characters of a string up to its closing quote. -/
def readString (chars : List Char) : Option (List Char × List Char) :=
  match chars with
  | [] => none
  | '"' :: rest => some ([], rest)
  | '\\' :: 'u' :: a :: b :: c :: d :: '\\' :: 'u' ::
      e :: f :: g :: h :: rest => do
      let first ← codeUnit? a b c d
      if 0xD800 ≤ first ∧ first < 0xE000 then
        let char ← surrogatePair? first (← codeUnit? e f g h)
        let (body, remaining) ← readString rest
        return (char :: body, remaining)
      else
        let (body, remaining) ←
          readString ('\\' :: 'u' :: e :: f :: g :: h :: rest)
        return (Char.ofNat first :: body, remaining)
  | '\\' :: 'u' :: a :: b :: c :: d :: rest => do
      let first ← codeUnit? a b c d
      if 0xD800 ≤ first ∧ first < 0xE000 then
        none
      else
        let (body, remaining) ← readString rest
        return (Char.ofNat first :: body, remaining)
  | '\\' :: letter :: rest => do
      let char ← letterEscape? letter
      let (body, remaining) ← readString rest
      return (char :: body, remaining)
  | char :: rest =>
      if char.toNat < 0x20 ∨ char = '\\' then
        none
      else
        (readString rest).map fun (body, remaining) =>
          (char :: body, remaining)
termination_by chars.length

/-- The longest run of decimal digits, and what follows it. -/
def readDigits (chars : List Char) : List Char × List Char :=
  (chars.takeWhile Char.isDigit, chars.dropWhile Char.isDigit)

/-- Read the digits behind a decimal point, if there is one. -/
def readFraction (chars : List Char) : Option (List Char × List Char) :=
  match chars with
  | '.' :: rest =>
      let (digits, remaining) := readDigits rest
      if digits.isEmpty then none else some (digits, remaining)
  | _ => some ([], chars)

/-- Read an exponent, if there is one. -/
def readExponent (chars : List Char) : Option (Option Int × List Char) :=
  let signed := fun (negative : Bool) (rest : List Char) =>
    let (digits, remaining) := readDigits rest
    if digits.isEmpty then
      none
    else
      let value : Int := Number.ofDecimalDigits digits
      some (some (if negative then -value else value), remaining)
  match chars with
  | letter :: rest =>
      if letter = 'e' ∨ letter = 'E' then
        match rest with
        | '-' :: digits => signed true digits
        | '+' :: digits => signed false digits
        | digits => signed false digits
      else
        some (none, chars)
  | [] => some (none, [])

/-- The integer with a sign and a magnitude, if 64 bits hold it with a sign or
without one; there is no negative zero. -/
def integer? (negative : Bool) (magnitude : Nat) : Option Int :=
  let value : Int := if negative then -magnitude else magnitude
  if (negative && magnitude == 0) || !Number.fitsEither 64 value then
    none
  else
    some value

/-- Append decimal digits to a number while it fits into 64 bits. What
remains are the digits that do not fit. -/
def appendDigits (value : Nat) : List Char → Nat × List Char
  | [] => (value, [])
  | digit :: rest =>
      let next := 10 * value + (digit.toNat - '0'.toNat)
      if next < Nat.pow 2 64 then
        appendDigits next rest
      else
        (value, digit :: rest)

/-- The double of a numeral by its digits in front of and behind the point and
its exponent. As many digits count as 64 bits hold; each digit in front of the
point that does not count raises the exponent by one. -/
def fractionNumber
    (negative : Bool) (whole part : List Char) (exponent : Int) :
    Number.Binary64 :=
  let (high, uncounted) := appendDigits 0 whole
  let (significand, ignored) := appendDigits high part
  let lowered : Int := part.length - ignored.length
  (Number.Binary64.ofDecimal negative significand 0).shiftDecimal
    (exponent + uncounted.length - lowered)

/-- Read a number. A double out of range is refused. -/
def readNumber (chars : List Char) : Option (JsonNumber × List Char) := do
  let (negative, unsigned) :=
    match chars with
    | '-' :: rest => (true, rest)
    | _ => (false, chars)
  let (whole, afterWhole) := readDigits unsigned
  if whole.isEmpty ∨ (whole.head? = some '0' ∧ 1 < whole.length) then
    none
  else
    let (part, afterPart) ← readFraction afterWhole
    let (exponent, remaining) ← readExponent afterPart
    let integral :=
      if part.isEmpty ∧ exponent.isNone then
        integer? negative (Number.ofDecimalDigits whole)
      else
        none
    match integral with
    | some value => return (.integer value, remaining)
    | none =>
        let value := fractionNumber negative whole part (exponent.getD 0)
        match value with
        | .finite _ _ _ => return (.fraction value, remaining)
        | _ => none

mutual

/-- Read one value. The nesting of the value stays below `fuel`. -/
def readValue : Nat → List Char → Option (Json × List Char)
  | 0, _ => none
  | fuel + 1, chars =>
      match skipBlanks chars with
      | 'n' :: 'u' :: 'l' :: 'l' :: rest => some (.null, rest)
      | 't' :: 'r' :: 'u' :: 'e' :: rest => some (.boolean true, rest)
      | 'f' :: 'a' :: 'l' :: 's' :: 'e' :: rest =>
          some (.boolean false, rest)
      | '"' :: rest =>
          (readString rest).map fun (body, remaining) =>
            (.string (String.ofList body), remaining)
      | '[' :: rest =>
          match skipBlanks rest with
          | ']' :: remaining => some (.array [], remaining)
          | _ => readItems fuel rest []
      | '\x7b' :: rest =>
          match skipBlanks rest with
          | '\x7d' :: remaining => some (.object [], remaining)
          | _ => readFields fuel rest []
      | other =>
          (readNumber other).map fun (value, remaining) =>
            (.number value, remaining)

/-- Read the items of an array behind those in `done`. -/
def readItems :
    Nat → List Char → List Json → Option (Json × List Char)
  | 0, _, _ => none
  | fuel + 1, chars, done => do
      let (item, afterItem) ← readValue fuel chars
      match skipBlanks afterItem with
      | ',' :: rest => readItems fuel rest (done ++ [item])
      | ']' :: rest => return (.array (done ++ [item]), rest)
      | _ => none

/-- Read the fields of an object behind those in `done`. -/
def readFields :
    Nat → List Char → List (String × Json) → Option (Json × List Char)
  | 0, _, _ => none
  | fuel + 1, chars, done => do
      match skipBlanks chars with
      | '"' :: rest =>
          let (key, afterKey) ← readString rest
          match skipBlanks afterKey with
          | ':' :: afterColon =>
              let (value, afterValue) ← readValue fuel afterColon
              let fields := setField done (String.ofList key) value
              match skipBlanks afterValue with
              | ',' :: remaining => readFields fuel remaining fields
              | '\x7d' :: remaining => return (.object fields, remaining)
              | _ => none
          | _ => none
      | _ => none

end

/-- Read a text that holds one JSON value and nothing else. -/
def parse? (source : String) : Option Json := do
  let chars := source.toList
  let (value, remaining) ← readValue (chars.length + 1) chars
  if (skipBlanks remaining).isEmpty then
    return value
  else
    none

end ManagedBinding.Json
