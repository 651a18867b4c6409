/-!
Cutting a text at its line feeds. `pieces` keeps every line feed at the end of
the line that it terminates, so the pieces concatenate to the text; `lines`
drops the line ends.
-/

namespace ManagedBinding.Text

/-- Cut a text after every line feed. No piece is empty, and only the last
one may lack its line feed. -/
def pieces : List Char → List (List Char)
  | [] => []
  | char :: rest =>
      if char = '\n' then
        [char] :: pieces rest
      else
        match pieces rest with
        | [] => [[char]]
        | first :: others => (char :: first) :: others

/-- Drop one line feed at the end, with the carriage return before it if
there is one. -/
def dropLineEnd (piece : List Char) : List Char :=
  match piece.reverse with
  | '\n' :: '\r' :: body => body.reverse
  | '\n' :: body => body.reverse
  | _ => piece

/-- The lines of a text without their line ends. A line feed at the very end
does not start another line. -/
def lines (chars : List Char) : List (List Char) :=
  (pieces chars).map dropLineEnd

/-- The pieces of a text concatenate to the text. -/
theorem flatten_pieces (chars : List Char) :
    (pieces chars).flatten = chars := by
  induction chars with
  | nil =>
      rfl
  | cons char rest inductionHypothesis =>
      unfold pieces
      split
      · simp [inductionHypothesis]
      · split
        · next restPieces =>
            simp [restPieces] at inductionHypothesis
            simp [← inductionHypothesis]
        · next first others restPieces =>
            rw [restPieces] at inductionHypothesis
            simpa using inductionHypothesis

end ManagedBinding.Text
