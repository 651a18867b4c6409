import ManagedBinding.Number.Digits
import ManagedBinding.Toml.Blank

/-!
The four forms of quoted strings: basic strings have escapes, literal strings
have none, and either may go over several lines between triple quotes.
-/

namespace ManagedBinding.Toml

/-- The character of an escape by one letter. -/
def letterEscape? (letter : Char) : Option Char :=
  if letter = 'b' then some '\x08'
  else if letter = 't' then some '\t'
  else if letter = 'n' then some '\n'
  else if letter = 'f' then some '\x0c'
  else if letter = 'r' then some '\r'
  else if letter = 'e' then some '\x1b'
  else if letter = '"' then some '"'
  else if letter = '\\' then some '\\'
  else none

/-- The character with the code point that the digits write in hexadecimal;
there is none for surrogates and beyond Unicode. -/
def codePoint? (digits : List Char) : Option Char := do
  let value ← Number.ofDigits? 16 digits
  if value.isValidChar then
    return Char.ofNat value
  else
    none

/-- Read an escape behind its backslash. -/
def readEscape : List Char → Option (Char × List Char)
  | 'x' :: a :: b :: rest =>
      (codePoint? [a, b]).map fun char => (char, rest)
  | 'u' :: a :: b :: c :: d :: rest =>
      (codePoint? [a, b, c, d]).map fun char => (char, rest)
  | 'U' :: a :: b :: c :: d :: e :: f :: g :: h :: rest =>
      (codePoint? [a, b, c, d, e, f, g, h]).map fun char => (char, rest)
  | letter :: rest =>
      (letterEscape? letter).map fun char => (char, rest)
  | [] => none

/-- Reading an escape leaves less to read. -/
theorem readEscape_length_lt
    {chars rest : List Char} {char : Char}
    (read : readEscape chars = some (char, rest)) :
    rest.length < chars.length := by
  unfold readEscape at read
  split at read <;> simp only [Option.map_eq_some_iff, Prod.mk.injEq,
    reduceCtorEq] at read
  all_goals
    obtain ⟨_, _, _, restEquality⟩ := read
    subst restEquality
    simp only [List.length_cons]
    omega

/-- Read the rest of a basic string behind its opening quote. -/
def readBasic (chars : List Char) : Option (List Char × List Char) :=
  match chars with
  | [] => none
  | char :: rest =>
      if char = '"' then
        some ([], rest)
      else if char = '\\' then
        match found : readEscape rest with
        | none => none
        | some (escaped, remaining) =>
            have := readEscape_length_lt found
            (readBasic remaining).map fun (body, behind) =>
              (escaped :: body, behind)
      else if isPlain char then
        (readBasic rest).map fun (body, behind) => (char :: body, behind)
      else
        none
termination_by chars.length
decreasing_by
  all_goals simp only [List.length_cons]; omega

/-- Read the rest of a literal string behind its opening quote. -/
def readLiteral : List Char → Option (List Char × List Char)
  | [] => none
  | char :: rest =>
      if char = '\x27' then
        some ([], rest)
      else if isPlain char then
        (readLiteral rest).map fun (body, behind) => (char :: body, behind)
      else
        none

/-- A line end directly behind the opening quotes does not count. -/
def dropFirstLineEnd : List Char → List Char
  | '\n' :: rest => rest
  | '\r' :: '\n' :: rest => rest
  | chars => chars

/-- Only blanks stand between here and a line end. -/
def blankToLineEnd (chars : List Char) : Bool :=
  match skipLineBlanks chars with
  | '\n' :: _ => true
  | '\r' :: '\n' :: _ => true
  | _ => false

/-- The closing quotes, with up to two more of them in front that belong to
the string. -/
def closingQuotes? (quote : Char) :
    List Char → Option (List Char × List Char)
  | a :: b :: c :: rest =>
      if a = quote ∧ b = quote ∧ c = quote then
        let extra := (rest.take 2).takeWhile fun char => char = quote
        some (extra, rest.drop extra.length)
      else
        none
  | _ => none

/-- Read the rest of a basic string over several lines. A backslash at the
end of a line drops the line end and all blanks and line ends behind it, which
is what `trimming` stands for. -/
def readLongBasic (trimming : Bool) (chars : List Char) :
    Option (List Char × List Char) :=
  match chars with
  | [] => none
  | char :: rest =>
      if char = '\r' ∧ rest.head? ≠ some '\n' then
        none
      else if trimming ∧ (isLineBlank char ∨ char = '\n' ∨ char = '\r') then
        readLongBasic true rest
      else if char = '"' then
        match closingQuotes? '"' chars with
        | some closed => some closed
        | none =>
            (readLongBasic false rest).map fun (body, behind) =>
              (char :: body, behind)
      else if char = '\\' then
        if blankToLineEnd rest then
          readLongBasic true rest
        else
          match found : readEscape rest with
          | none => none
          | some (escaped, remaining) =>
              have := readEscape_length_lt found
              (readLongBasic false remaining).map fun (body, behind) =>
                (escaped :: body, behind)
      else if isPlain char ∨ char = '\n' ∨ char = '\r' then
        (readLongBasic false rest).map fun (body, behind) =>
          (char :: body, behind)
      else
        none
termination_by chars.length
decreasing_by
  all_goals simp only [List.length_cons]; omega

/-- Read the rest of a literal string over several lines. -/
def readLongLiteral (chars : List Char) : Option (List Char × List Char) :=
  match chars with
  | [] => none
  | char :: rest =>
      if char = '\r' ∧ rest.head? ≠ some '\n' then
        none
      else if char = '\x27' then
        match closingQuotes? '\x27' chars with
        | some closed => some closed
        | none =>
            (readLongLiteral rest).map fun (body, behind) =>
              (char :: body, behind)
      else if isPlain char ∨ char = '\n' ∨ char = '\r' then
        (readLongLiteral rest).map fun (body, behind) =>
          (char :: body, behind)
      else
        none

/-- Read a quoted string of any form. -/
def readQuoted : List Char → Option (List Char × List Char)
  | '"' :: '"' :: '"' :: rest => readLongBasic false (dropFirstLineEnd rest)
  | '"' :: rest => readBasic rest
  | '\x27' :: '\x27' :: '\x27' :: rest =>
      readLongLiteral (dropFirstLineEnd rest)
  | '\x27' :: rest => readLiteral rest
  | _ => none

end ManagedBinding.Toml
