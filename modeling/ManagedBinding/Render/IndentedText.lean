import ManagedBinding.Text.Lines

/-!
Text that grows line by line under a current indentation. Indentation goes in
front of the first character of a line, so a line may be put together from
several writes, and an empty line has none.
-/

namespace ManagedBinding

/-- What one level of indentation consists of. -/
inductive IndentStyle
  | spaces (count : Nat)
  | tab
  deriving DecidableEq, Repr

namespace IndentStyle

def standard : IndentStyle := .spaces 4

/-- The text of one level: a tab, or two, four or eight spaces. Every other
number of spaces counts as four. -/
def step : IndentStyle → String
  | .spaces 2 => "  "
  | .spaces 8 => "        "
  | .spaces _ => "    "
  | .tab => "\t"

/-- The columns of one level. -/
def width (style : IndentStyle) : Nat := style.step.length

end IndentStyle

/-- The text written so far, the depth of indentation for the lines to come,
and whether the next character starts a line. -/
structure IndentedText where
  style : IndentStyle
  depth : Nat
  text : String
  atLineStart : Bool
  deriving DecidableEq, Repr

namespace IndentedText

def empty (style : IndentStyle) : IndentedText := ⟨style, 0, "", true⟩

/-- The indentation of a line at the current depth. -/
def indentation (output : IndentedText) : String :=
  String.join (List.replicate output.depth output.style.step)

def indentWidth (output : IndentedText) : Nat :=
  output.depth * output.style.width

/-- Append one piece of a line, which may end the line. -/
def writePiece (output : IndentedText) (piece : List Char) :
    IndentedText :=
  let lead :=
    if output.atLineStart && piece != ['\n'] then
      output.indentation
    else
      ""
  { output with
    text := output.text ++ lead ++ String.ofList piece
    atLineStart := piece.getLast? == some '\n' }

/-- Append a text and indent every line that it starts. -/
def write (output : IndentedText) (text : String) : IndentedText :=
  (Text.pieces text.toList).foldl writePiece output

/-- End the current line, or add an empty one. -/
def newLine (output : IndentedText) : IndentedText :=
  { output with text := output.text ++ "\n", atLineStart := true }

/-- Append a text and end the line. -/
def writeLine (output : IndentedText) (text : String) : IndentedText :=
  (output.write text).newLine

/-- Indent the lines to come one level deeper. -/
def pushIndent (output : IndentedText) : IndentedText :=
  { output with depth := output.depth + 1 }

/-- Indent the lines to come one level less, if they are indented at all. -/
def popIndent (output : IndentedText) : IndentedText :=
  { output with depth := output.depth - 1 }

end IndentedText

end ManagedBinding
