/-!
Numbers written by digits.
-/

namespace ManagedBinding.Number

/-- The value of a hexadecimal digit of either case. -/
def digitValue? (char : Char) : Option Nat :=
  if '0' ≤ char ∧ char ≤ '9' then
    some (char.toNat - '0'.toNat)
  else if 'a' ≤ char ∧ char ≤ 'f' then
    some (char.toNat - 'a'.toNat + 10)
  else if 'A' ≤ char ∧ char ≤ 'F' then
    some (char.toNat - 'A'.toNat + 10)
  else
    none

/-- The number that digits write in a base up to sixteen. -/
def ofDigits? (base : Nat) (digits : List Char) : Option Nat :=
  digits.foldlM
    (fun value char => do
      let digit ← digitValue? char
      if digit < base then some (base * value + digit) else none)
    0

/-- The number that decimal digits write. -/
def ofDecimalDigits (digits : List Char) : Nat :=
  digits.foldl (fun value char => 10 * value + (char.toNat - '0'.toNat)) 0

end ManagedBinding.Number
