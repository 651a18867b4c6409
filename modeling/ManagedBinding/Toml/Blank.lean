import ManagedBinding.Toml.Span

/-!
Blanks, line ends and comments. A line ends with a line feed, which a single
carriage return may precede; a carriage return anywhere else is an error.
-/

namespace ManagedBinding.Toml

/-- The character may stand between the parts of a line. -/
def isLineBlank (char : Char) : Bool :=
  char = ' ' || char = '\t'

/-- The character is no control character, or it is a tab. Only such
characters stand in comments and in strings on one line. -/
def isPlain (char : Char) : Bool :=
  char = '\t' || (decide (0x20 ≤ char.toNat) && decide (char.toNat ≠ 0x7F))

def skipLineBlanks (chars : List Char) : List Char :=
  chars.dropWhile isLineBlank

/-- Drop the blanks, line ends and comments at the front. Inside a comment
all plain characters are dropped up to the end of the line. -/
def skipBlanks (insideComment : Bool) : List Char → Option (List Char)
  | [] => some []
  | char :: rest =>
      if char = '\n' then
        skipBlanks false rest
      else if char = '\r' then
        if rest.head? = some '\n' then
          skipBlanks insideComment rest
        else
          none
      else if insideComment then
        if isPlain char then skipBlanks true rest else none
      else if isLineBlank char then
        skipBlanks false rest
      else if char = '#' then
        skipBlanks true rest
      else
        some (char :: rest)

/-- Nothing but blanks and a comment stands between here and the end of the
line. What is dropped are the blanks. -/
def atLineEnd (chars : List Char) : Option (List Char) :=
  let remaining := skipLineBlanks chars
  match remaining with
  | [] => some remaining
  | '\n' :: _ => some remaining
  | '\r' :: '\n' :: _ => some remaining
  | '#' :: _ => some remaining
  | _ => none

end ManagedBinding.Toml
