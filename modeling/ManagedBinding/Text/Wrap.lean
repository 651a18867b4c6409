import ManagedBinding.Text.Blank
import ManagedBinding.Text.Lines

/-!
Greedy word wrapping. Words are separated by ASCII spaces, a line takes words
as long as they fit, and a word that is too long for any line stands alone.
Widths count characters, so a combining mark or a wide character counts one.
-/

namespace ManagedBinding.Text

/-- A run of characters other than the ASCII space. -/
abbrev Word := List Char

/-- Cut a text at every occurrence of a character, which is dropped. -/
def splitAtChar (separator : Char) : List Char → List (List Char)
  | [] => [[]]
  | char :: rest =>
      if char = separator then
        [] :: splitAtChar separator rest
      else
        match splitAtChar separator rest with
        | [] => [[char]]
        | first :: others => (char :: first) :: others

/-- The maximal runs of characters between ASCII spaces. -/
def words (paragraph : List Char) : List Word :=
  (splitAtChar ' ' paragraph).filter fun word => !word.isEmpty

/-- The words of one line, with single spaces between them. -/
def joinWords (line : List Word) : List Char :=
  List.intercalate [' '] line

/-- Continue a line that holds the words `line` and `used` characters: each
further word joins the line if it fits behind a space, else it starts the next
line. -/
def packFrom
    (width used : Nat) (line : List Word) : List Word → List (List Word)
  | [] => [line]
  | word :: rest =>
      if used + 1 + word.length ≤ width then
        packFrom width (used + 1 + word.length) (line ++ [word]) rest
      else
        line :: packFrom width word.length [word] rest

/-- Distribute words over lines, first fit. -/
def pack (width : Nat) : List Word → List (List Word)
  | [] => []
  | word :: rest => packFrom width word.length [word] rest

/-- The lines of one paragraph; a paragraph without words is one empty
line. -/
def wrapParagraph (width : Nat) (paragraph : List Char) :
    List (List Char) :=
  match words paragraph with
  | [] => [[]]
  | first :: rest => (pack width (first :: rest)).map joinWords

/-- Trim a text and wrap each of its lines to `width` characters, where width
zero counts as one. A blank text has no lines. -/
def wrap (width : Nat) (text : String) : List String :=
  let paragraphs := lines (trim text.toList)
  (paragraphs.flatMap (wrapParagraph (max width 1))).map String.ofList

end ManagedBinding.Text
