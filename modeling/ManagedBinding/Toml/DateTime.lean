import ManagedBinding.Number.Digits

/-!
Dates, times of day, and both together with an optional offset from universal
time. Days are checked against the calendar; what they stand for is not kept.
-/

namespace ManagedBinding.Toml

/-- Two decimal digits with a value between two bounds. -/
def twoDigits? (least most : Nat) (tens ones : Char) : Option Nat :=
  if tens.isDigit ∧ ones.isDigit then
    let value := Number.ofDecimalDigits [tens, ones]
    if least ≤ value ∧ value ≤ most then some value else none
  else
    none

/-- The number of days of a month. -/
def daysOfMonth (year month : Nat) : Nat :=
  if month = 2 then
    if year % 4 = 0 ∧ (year % 100 ≠ 0 ∨ year % 400 = 0) then 29 else 28
  else if month = 4 ∨ month = 6 ∨ month = 9 ∨ month = 11 then
    30
  else
    31

/-- Cut off a date. -/
def dropDate? : List Char → Option (List Char)
  | a :: b :: c :: d :: '-' :: e :: f :: '-' :: g :: h :: rest => do
      let year ←
        if [a, b, c, d].all Char.isDigit then
          some (Number.ofDecimalDigits [a, b, c, d])
        else
          none
      let month ← twoDigits? 1 12 e f
      let _ ← twoDigits? 1 (daysOfMonth year month) g h
      return rest
  | _ => none

/-- Cut off the fraction of a second, if there is one. -/
def dropSecondFraction? : List Char → Option (List Char)
  | '.' :: rest =>
      let remaining := rest.dropWhile Char.isDigit
      if remaining.length < rest.length then some remaining else none
  | chars => some chars

/-- Cut off a time of day. The seconds may be missing. -/
def dropTime? : List Char → Option (List Char)
  | a :: b :: ':' :: c :: d :: rest => do
      let _ ← twoDigits? 0 23 a b
      let _ ← twoDigits? 0 59 c d
      match rest with
      | ':' :: e :: f :: behind =>
          let _ ← twoDigits? 0 60 e f
          dropSecondFraction? behind
      | _ => return rest
  | _ => none

/-- The chars are empty or an offset from universal time. -/
def isOffset : List Char → Bool
  | [] => true
  | ['Z'] => true
  | ['z'] => true
  | [sign, a, b, ':', c, d] =>
      (sign = '+' || sign = '-') && (twoDigits? 0 23 a b).isSome &&
        (twoDigits? 0 59 c d).isSome
  | _ => false

/-- A date, a time of day, or both with an optional offset. -/
def isDateTime (chars : List Char) : Bool :=
  match dropDate? chars with
  | none => dropTime? chars = some []
  | some [] => true
  | some (separator :: rest) =>
      (separator = 'T' || separator = 't' || separator = ' ') &&
        (dropTime? rest).any isOffset

end ManagedBinding.Toml
