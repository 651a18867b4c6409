import ManagedBinding.Proofs.Text.Lines
import Mathlib.Data.List.TakeWhile

/-!
# Trimmed texts and their paragraphs

Before it is wrapped, a text loses the blanks at its ends and is cut into
paragraphs at its line feeds, each with or without a carriage return in front.
Both steps are said here without the order in which the ends are visited: a
trimmed text is what remains between blanks and has a visible character at
each end, and that determines it; the paragraphs are the parts between the
line feeds, and a text that is trimmed has exactly them for its lines.
-/

namespace ManagedBinding.Text

/-- What remains of a text without the blanks at its ends. -/
structure Trims (chars trimmed : List Char) : Prop where
  between :
    ∃ front back : List Char, chars = front ++ trimmed ++ back ∧
      (∀ char ∈ front, isBlankChar char = true) ∧
      ∀ char ∈ back, isBlankChar char = true
  head_visible : ∀ char ∈ trimmed.head?, isBlankChar char = false
  last_visible : ∀ char ∈ trimmed.getLast?, isBlankChar char = false

/-- Dropping from the start stops at the first visible character. -/
theorem trimStart_of_all_append
    {front : List Char} (chars : List Char)
    (blanks : ∀ char ∈ front, isBlankChar char = true) :
    trimStart (front ++ chars) = trimStart chars :=
  List.dropWhile_append_of_pos blanks

theorem trimStart_of_head_visible
    {chars : List Char}
    (visible : ∀ char ∈ chars.head?, isBlankChar char = false) :
    trimStart chars = chars := by
  cases chars with
  | nil =>
      rfl
  | cons char rest =>
      rw [trimStart, List.dropWhile_cons, visible char rfl]
      rfl

theorem head_trimStart (chars : List Char) :
    ∀ char ∈ (trimStart chars).head?, isBlankChar char = false := by
  intro char atHead
  have stopped := List.head?_dropWhile_not isBlankChar chars
  have first : (chars.dropWhile isBlankChar).head? = some char := atHead
  rw [first] at stopped
  exact stopped

theorem exists_append_trimStart (chars : List Char) :
    ∃ front : List Char, chars = front ++ trimStart chars ∧
      ∀ char ∈ front, isBlankChar char = true := by
  refine ⟨chars.takeWhile isBlankChar, ?_, ?_⟩
  · exact List.takeWhile_append_dropWhile.symm
  · intro char member
    exact List.mem_takeWhile_imp member

theorem exists_trimEnd_append (chars : List Char) :
    ∃ back : List Char, chars = trimEnd chars ++ back ∧
      ∀ char ∈ back, isBlankChar char = true := by
  obtain ⟨front, whole, blanks⟩ := exists_append_trimStart chars.reverse
  refine ⟨front.reverse, ?_, ?_⟩
  · have reversed := congrArg List.reverse whole
    rw [List.reverse_reverse, List.reverse_append] at reversed
    exact reversed
  · intro char member
    exact blanks char (List.mem_reverse.mp member)

theorem last_trimEnd (chars : List Char) :
    ∀ char ∈ (trimEnd chars).getLast?, isBlankChar char = false := by
  intro char atLast
  rw [trimEnd, List.getLast?_reverse] at atLast
  exact head_trimStart chars.reverse char atLast

theorem trimEnd_append_of_all
    (chars : List Char) {back : List Char}
    (blanks : ∀ char ∈ back, isBlankChar char = true) :
    trimEnd (chars ++ back) = trimEnd chars := by
  have reversedBlanks :
      ∀ char ∈ back.reverse, isBlankChar char = true := by
    intro char member
    exact blanks char (List.mem_reverse.mp member)
  rw [trimEnd, trimEnd, List.reverse_append,
    trimStart_of_all_append chars.reverse reversedBlanks]

theorem trimEnd_of_last_visible
    {chars : List Char}
    (visible : ∀ char ∈ chars.getLast?, isBlankChar char = false) :
    trimEnd chars = chars := by
  rw [← List.head?_reverse] at visible
  rw [trimEnd, trimStart_of_head_visible visible, List.reverse_reverse]

theorem trims_trim (chars : List Char) : Trims chars (trim chars) := by
  obtain ⟨front, fromStart, frontBlank⟩ := exists_append_trimStart chars
  obtain ⟨back, fromEnd, backBlank⟩ :=
    exists_trimEnd_append (trimStart chars)
  refine ⟨⟨front, back, ?_, frontBlank, backBlank⟩, ?_, ?_⟩
  · rw [List.append_assoc, trim, ← fromEnd, ← fromStart]
  · intro char atHead
    have first : (trimStart chars).head? = some char := by
      rw [Option.mem_def, trim] at atHead
      rw [fromEnd, List.head?_append, atHead]
      rfl
    exact head_trimStart chars char first
  · exact last_trimEnd (trimStart chars)

/-- The blanks at the ends are determined by the text. -/
theorem trims_iff {chars trimmed : List Char} :
    Trims chars trimmed ↔ trim chars = trimmed := by
  constructor
  · rintro ⟨⟨front, back, whole, frontBlank, backBlank⟩, head, last⟩
    rw [trim, whole, List.append_assoc,
      trimStart_of_all_append _ frontBlank]
    cases trimmed with
    | nil =>
        have onlyBlanks : trimStart (back ++ []) = trimStart [] :=
          trimStart_of_all_append [] backBlank
        rw [List.append_nil] at onlyBlanks
        rw [List.nil_append, onlyBlanks]
        rfl
    | cons char rest =>
        have headOfWhole :
            ∀ tested ∈ (char :: rest ++ back).head?,
              isBlankChar tested = false := head
        rw [trimStart_of_head_visible headOfWhole,
          trimEnd_append_of_all _ backBlank,
          trimEnd_of_last_visible last]
  · rintro rfl
    exact trims_trim chars

/-- Only a blank text has nothing left. -/
theorem trim_eq_nil_iff (chars : List Char) :
    trim chars = [] ↔ ∀ char ∈ chars, isBlankChar char = true := by
  constructor
  · intro nothing
    obtain ⟨⟨front, back, whole, frontBlank, backBlank⟩, _, _⟩ :=
      trims_iff.mpr nothing
    rw [whole, List.append_nil]
    intro char member
    rcases List.mem_append.mp member with inFront | inBack
    · exact frontBlank char inFront
    · exact backBlank char inBack
  · intro blanks
    refine trims_iff.mp ⟨⟨chars, [], ?_, blanks, ?_⟩, ?_, ?_⟩
    · rw [List.append_nil, List.append_nil]
    · exact fun char member => absurd member List.not_mem_nil
    · exact fun char member => absurd member (Option.not_mem_none char)
    · exact fun char member => absurd member (Option.not_mem_none char)

/-- A line without a carriage return at its end. -/
def dropReturn (line : List Char) : List Char :=
  if line.getLast? = some '\r' then line.dropLast else line

/-- The parts of a text between its line feeds, each without the carriage
return in front of the line feed.  An empty text has no paragraphs. -/
def paragraphs (chars : List Char) : List (List Char) :=
  if chars.isEmpty then
    []
  else
    (chars.splitOn '\n').map dropReturn

theorem dropLineEnd_ended (line : List Char) :
    dropLineEnd (line ++ ['\n']) = dropReturn line := by
  rcases List.eq_nil_or_concat line with rfl | ⟨start, char, rfl⟩
  · rfl
  · by_cases carriageReturn : char = '\r'
    · simp [dropLineEnd, dropReturn, carriageReturn]
    · simp [dropLineEnd, dropReturn, carriageReturn]

theorem dropLineEnd_of_last_visible
    {line : List Char}
    (visible : ∀ char ∈ line.getLast?, isBlankChar char = false) :
    dropLineEnd line = line := by
  rcases List.eq_nil_or_concat line with rfl | ⟨start, char, rfl⟩
  · rfl
  · have notLineFeed : char ≠ '\n' := by
      rintro rfl
      exact absurd (visible '\n' (by simp)) (by decide)
    simp [dropLineEnd, notLineFeed]

theorem dropReturn_of_last_visible
    {line : List Char}
    (visible : ∀ char ∈ line.getLast?, isBlankChar char = false) :
    dropReturn line = line := by
  have notReturn : line.getLast? ≠ some '\r' := by
    intro atLast
    exact absurd (visible '\r' atLast) (by decide)
  rw [dropReturn, if_neg notReturn]

theorem pieces_eq_singleton
    {line : List Char} (nonempty : line ≠ []) (unbroken : '\n' ∉ line) :
    pieces line = [line] := by
  induction line with
  | nil =>
      exact absurd rfl nonempty
  | cons char rest inductionHypothesis =>
      rw [List.mem_cons, not_or] at unbroken
      rw [pieces, if_neg (Ne.symm unbroken.1)]
      by_cases last : rest = []
      · rw [last]
        rfl
      · rw [inductionHypothesis last unbroken.2]

/-- Parts that are joined by line feeds are the lines of a text that does not
end at a blank. -/
theorem lines_intercalate
    {parts : List (List Char)}
    (unbroken : ∀ part ∈ parts, '\n' ∉ part) {ending : Char}
    (atLast : ending ∈ (List.intercalate ['\n'] parts).getLast?)
    (visible : isBlankChar ending = false) :
    lines (List.intercalate ['\n'] parts) = parts.map dropReturn := by
  induction parts with
  | nil =>
      rfl
  | cons part rest inductionHypothesis =>
      rw [List.forall_mem_cons] at unbroken
      by_cases last : rest = []
      · rw [last, List.intercalate_singleton] at atLast ⊢
        have nonempty : part ≠ [] := by
          rintro rfl
          exact absurd atLast (Option.not_mem_none ending)
        have lastVisible :
            ∀ char ∈ part.getLast?, isBlankChar char = false := by
          intro char charLast
          rw [Option.mem_unique charLast atLast]
          exact visible
        rw [lines, pieces_eq_singleton nonempty unbroken.1,
          List.map_singleton, List.map_singleton,
          dropLineEnd_of_last_visible lastVisible,
          dropReturn_of_last_visible lastVisible]
      · rw [List.intercalate_cons_of_ne_nil last, List.append_assoc,
          List.singleton_append] at atLast ⊢
        have laterLast :
            ending ∈ (List.intercalate ['\n'] rest).getLast? := by
          rw [List.getLast?_append, List.getLast?_cons, Option.some_or]
            at atLast
          cases later : (List.intercalate ['\n'] rest).getLast? with
          | none =>
              rw [later] at atLast
              have lineFeed : ending = '\n' := by
                simpa using atLast.symm
              rw [lineFeed] at visible
              exact absurd visible (by decide)
          | some char =>
              rw [later] at atLast
              simpa using atLast
        rw [lines, pieces_line_append unbroken.1, List.map_cons,
          dropLineEnd_ended, List.map_cons]
        exact congrArg (dropReturn part :: ·)
          (inductionHypothesis unbroken.2 laterLast)

/-- The lines of a trimmed text are its paragraphs. -/
theorem lines_trim (chars : List Char) :
    lines (trim chars) = paragraphs (trim chars) := by
  cases trimmed : trim chars with
  | nil =>
      rfl
  | cons char rest =>
      have lastVisible := (trims_iff.mpr trimmed).last_visible
      obtain ⟨ending, atLast⟩ :
          ∃ ending, (char :: rest).getLast? = some ending :=
        ⟨_, List.getLast?_eq_some_getLast (List.cons_ne_nil char rest)⟩
      let parts := (char :: rest).splitOn '\n'
      have joined : List.intercalate ['\n'] parts = char :: rest :=
        List.intercalate_splitOn '\n'
      have unbroken : ∀ part ∈ parts, '\n' ∉ part :=
        fun _ member => not_mem_of_mem_splitOn member
      have lastOfParts :
          ending ∈ (List.intercalate ['\n'] parts).getLast? := by
        rw [joined]
        exact atLast
      have ofParts :=
        lines_intercalate unbroken lastOfParts (lastVisible ending atLast)
      rw [joined] at ofParts
      exact ofParts

end ManagedBinding.Text
