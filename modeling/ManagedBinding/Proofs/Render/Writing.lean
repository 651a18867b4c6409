import ManagedBinding.Proofs.Render.Listing
import ManagedBinding.Render.IndentedText

/-!
# Writing character by character

A write cuts its text into pieces and treats each piece as a whole.  The same
output comes about one character at a time: a character that starts a line
without ending it is put behind the indentation, and every other character is
put down as it is.  So it does not matter how a text is spread over several
writes, and a text written at the start of a line stands there as an item of a
listing does.
-/

namespace ManagedBinding.IndentedText

/-- Append one character, behind the indentation if it starts a line without
ending it. -/
def writeChar (output : IndentedText) (char : Char) : IndentedText :=
  let lead :=
    if output.atLineStart && char != '\n' then output.indentation else ""
  { output with
    text := (output.text ++ lead).push char
    atLineStart := char == '\n' }

private theorem writePiece_singleton
    (output : IndentedText) (char : Char) :
    output.writePiece [char] = output.writeChar char := by
  by_cases equality : char = '\n'
  · simp [writePiece, writeChar, equality, ← String.toList_inj]
  · simp [writePiece, writeChar, equality]

/-- Behind its first character a piece that goes on is written as the rest of
a line. -/
private theorem writePiece_cons
    (output : IndentedText) {char : Char} {rest : List Char}
    (visible : char ≠ '\n') (nonempty : rest ≠ []) :
    output.writePiece (char :: rest) =
      (output.writeChar char).writePiece rest := by
  have sameEnd : (char :: rest).getLast? = rest.getLast? := by
    rw [List.getLast?_cons, List.getLast?_eq_some_getLast nonempty]
    rfl
  have started : (char == '\n') = false := beq_eq_false_iff_ne.mpr visible
  simp [writePiece, writeChar, sameEnd, started, visible,
    ← String.toList_inj]

/-- The pieces of a text, one after the other, come to its characters, one
after the other. -/
private theorem foldl_writePiece_pieces
    (chars : List Char) (output : IndentedText) :
    (Text.pieces chars).foldl writePiece output =
      chars.foldl writeChar output := by
  induction chars generalizing output with
  | nil =>
      rfl
  | cons char rest inductionHypothesis =>
      rw [Text.pieces, List.foldl_cons, ← inductionHypothesis]
      by_cases equality : char = '\n'
      · rw [if_pos equality, List.foldl_cons, writePiece_singleton]
      · rw [if_neg equality]
        cases cut : Text.pieces rest with
        | nil =>
            rw [List.foldl_cons, writePiece_singleton]
        | cons first others =>
            have nonempty : first ≠ [] :=
              Text.ne_nil_of_mem_pieces (cut ▸ List.mem_cons_self)
            rw [List.foldl_cons, List.foldl_cons,
              writePiece_cons output equality nonempty]

/-- A write puts down the characters of its text one by one. -/
theorem write_eq_foldl (output : IndentedText) (text : String) :
    output.write text = text.toList.foldl writeChar output :=
  foldl_writePiece_pieces text.toList output

/-- A text may be cut into two writes anywhere. -/
theorem write_append (output : IndentedText) (left right : String) :
    output.write (left ++ right) = (output.write left).write right := by
  rw [write_eq_foldl, write_eq_foldl, write_eq_foldl, String.toList_append,
    List.foldl_append]

@[simp]
theorem write_empty (output : IndentedText) : output.write "" = output := by
  rw [write_eq_foldl]
  rfl

theorem newLine_eq_writeChar (output : IndentedText) :
    output.newLine = output.writeChar '\n' := by
  simp [newLine, writeChar, ← String.toList_inj]

theorem writeLine_eq_foldl (output : IndentedText) (text : String) :
    output.writeLine text =
      (text.toList ++ ['\n']).foldl writeChar output := by
  rw [writeLine, newLine_eq_writeChar, write_eq_foldl, List.foldl_append]
  rfl

theorem writeLine_eq_write (output : IndentedText) (text : String) :
    output.writeLine text = output.write (text ++ "\n") := by
  rw [writeLine_eq_foldl, write_eq_foldl, String.toList_append]
  rfl

/-- Inside a line, characters other than line feeds stand as they are. -/
private theorem foldl_writeChar_inside
    (output : IndentedText) (inside : output.atLineStart = false)
    {line : List Char} (unbroken : '\n' ∉ line) :
    line.foldl writeChar output =
      { output with text := output.text ++ String.ofList line } := by
  induction line generalizing output with
  | nil =>
      simp
  | cons char rest inductionHypothesis =>
      rw [List.mem_cons, not_or] at unbroken
      have visible : (char == '\n') = false :=
        beq_eq_false_iff_ne.mpr (Ne.symm unbroken.1)
      have step :
          output.writeChar char =
            { output with text := output.text.push char } := by
        simp [writeChar, inside, visible]
      rw [List.foldl_cons, step,
        inductionHypothesis
          { output with text := output.text.push char }
          inside unbroken.2]
      simp [← String.toList_inj]

/-- Inside a line, a text without line feeds is put down as it is. -/
theorem write_inside
    {output : IndentedText} (inside : output.atLineStart = false)
    {text : String} (unbroken : '\n' ∉ text.toList) :
    output.write text = { output with text := output.text ++ text } := by
  rw [write_eq_foldl, foldl_writeChar_inside output inside unbroken,
    String.ofList_toList]

/-- A text that does not end with a line feed ends inside a line. -/
theorem atLineStart_write_concat
    (output : IndentedText) (front : String) {last : Char}
    (visible : last ≠ '\n') :
    (output.write (front.push last)).atLineStart = false := by
  rw [write_eq_foldl, String.toList_push, List.foldl_append]
  exact beq_eq_false_iff_ne.mpr visible

theorem toList_indentation (output : IndentedText) :
    output.indentation.toList =
      (List.replicate output.depth output.style.step.toList).flatten := by
  rw [indentation, String.toList_join, List.flatMap_replicate]

theorem toList_indentation_of_standard
    {output : IndentedText} (standard : output.style = .standard) :
    output.indentation.toList = List.replicate (4 * output.depth) ' ' := by
  have spaces :
      output.style.step.toList = List.replicate 4 ' ' := by
    rw [standard]
    rfl
  rw [toList_indentation, spaces, List.flatten_replicate_replicate,
    Nat.mul_comm]

/-- A line without line feeds is put down behind its indentation. -/
private theorem foldl_writeChar_line
    (output : IndentedText) (start : output.atLineStart = true)
    (standard : output.style = .standard)
    {line : List Char} (unbroken : '\n' ∉ line) :
    (line ++ ['\n']).foldl writeChar output =
      { output with
        text := output.text ++
          String.ofList
            (Listing.indentLine output.depth line ++ ['\n']) } := by
  cases line with
  | nil =>
      simp [writeChar, Listing.indentLine, start, ← String.toList_inj]
  | cons char rest =>
      rw [List.mem_cons, not_or] at unbroken
      have visible : char ≠ '\n' := Ne.symm unbroken.1
      have inside : (output.writeChar char).atLineStart = false :=
        beq_eq_false_iff_ne.mpr visible
      rw [List.foldl_append, List.foldl_cons, List.foldl_nil,
        List.foldl_cons, foldl_writeChar_inside _ inside unbroken.2]
      simp [writeChar, Listing.indentLine, start, visible,
        toList_indentation_of_standard standard, ← String.toList_inj]

private theorem foldl_writeChar_endLines
    (output : IndentedText) (start : output.atLineStart = true)
    (standard : output.style = .standard)
    {lines : List (List Char)} (unbroken : ∀ line ∈ lines, '\n' ∉ line) :
    (Text.endLines lines).foldl writeChar output =
      { output with
        text := output.text ++
          String.ofList
            (Text.endLines
              (lines.map (Listing.indentLine output.depth))) } := by
  induction lines generalizing output with
  | nil =>
      simp
  | cons line rest inductionHypothesis =>
      rw [List.forall_mem_cons] at unbroken
      have split :
          Text.endLines (line :: rest) =
            (line ++ ['\n']) ++ Text.endLines rest := by
        simp
      rw [split, List.foldl_append,
        foldl_writeChar_line output start standard unbroken.1,
        inductionHypothesis
          { output with
            text := output.text ++
              String.ofList
                (Listing.indentLine output.depth line ++ ['\n']) }
          start standard unbroken.2]
      simp [← String.toList_inj]

/-- A line that is written at the start of a line stands there as an item of a
listing does, and leaves the output at the start of a line again. -/
theorem writeLine_eq_item
    {output : IndentedText} (start : output.atLineStart = true)
    (standard : output.style = .standard) (text : String) :
    output.writeLine text =
      { output with
        text := output.text ++ Listing.text [⟨output.depth, text⟩] } := by
  rw [writeLine_eq_foldl, ← Text.endLines_splitOn,
    foldl_writeChar_endLines output start standard
      (fun line member => Text.not_mem_of_mem_splitOn member)]
  rw [Listing.text, List.flatMap_singleton, Listing.Item.lines]

/-- A text that is written at the start of a line reaches the output line by
line, each line behind its indentation. -/
theorem write_lines
    (output : IndentedText) (start : output.atLineStart = true)
    (standard : output.style = .standard) (text : String) :
    ∃ shown : String,
      (output.write text).text = output.text ++ shown ∧
        shown.toList.splitOn '\n' =
          (text.toList.splitOn '\n').map
            (Listing.indentLine output.depth) := by
  let lines :=
    (text.toList.splitOn '\n').map (Listing.indentLine output.depth)
  have nonempty : lines ≠ [] := by
    intro empty
    exact List.splitOn_ne_nil '\n' text.toList (List.map_eq_nil_iff.mp empty)
  have unbroken : ∀ line ∈ lines, '\n' ∉ line := by
    intro line member
    obtain ⟨part, partMember, rfl⟩ := List.mem_map.mp member
    exact Listing.indentLine_unbroken output.depth
      (Text.not_mem_of_mem_splitOn partMember)
  refine ⟨String.ofList (List.intercalate ['\n'] lines), ?_, ?_⟩
  · have ended :
        (output.write text).text ++ "\n" =
          output.text ++
            String.ofList (List.intercalate ['\n'] lines) ++ "\n" := by
      have asItem :
          (output.writeLine text).text =
            output.text ++ Listing.text [⟨output.depth, text⟩] := by
        rw [writeLine_eq_item start standard]
      have asLine :
          (output.writeLine text).text =
            (output.write text).text ++ "\n" := rfl
      rw [← asLine, asItem, Listing.text, List.flatMap_singleton,
        Listing.Item.lines, Text.endLines_eq_intercalate nonempty,
        String.ofList_append, ← String.append_assoc]
    have sameChars := congrArg String.toList ended
    rw [String.toList_append, String.toList_append] at sameChars
    exact String.toList_inj.mp (List.append_cancel_right sameChars)
  · rw [String.toList_ofList,
      List.splitOn_intercalate '\n' unbroken nonempty]

end ManagedBinding.IndentedText
