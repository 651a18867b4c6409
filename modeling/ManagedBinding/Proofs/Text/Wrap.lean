import ManagedBinding.Proofs.Text.Lines
import ManagedBinding.Proofs.Text.Separators

/-!
# Wrapped lines

Wrapping neither loses a word nor invents one: the lines of a paragraph are its
words in their order.  Hence a wrapped line holds no characters but those of a
paragraph and the spaces between its words, and no line feed.
-/

namespace ManagedBinding.Text

/-- Trimming the end stops at a character that is not blank. -/
theorem trimEnd_append_visible
    (start rest : List Char) {char : Char}
    (visible : isBlankChar char = false) :
    trimEnd (start ++ char :: rest) = start ++ char :: trimEnd rest := by
  have stops :
      List.dropWhile isBlankChar (char :: start.reverse) =
        char :: start.reverse := by
    rw [List.dropWhile_cons, visible]
    rfl
  have reversed :
      (start ++ char :: rest).reverse =
        rest.reverse ++ char :: start.reverse := by
    simp
  rw [trimEnd, trimEnd, trimStart, trimStart, reversed,
    List.dropWhile_append, stops]
  by_cases blank :
      (List.dropWhile isBlankChar rest.reverse).isEmpty = true
  · rw [if_pos blank, List.isEmpty_iff.mp blank]
    simp
  · rw [if_neg blank]
    simp

theorem mem_of_mem_trimEnd {chars : List Char} {char : Char}
    (member : char ∈ trimEnd chars) :
    char ∈ chars := by
  rw [trimEnd, List.mem_reverse] at member
  have reversed :=
    (List.dropWhile_suffix isBlankChar).subset member
  exact List.mem_reverse.mp reversed

/-- A word consists of the characters of its paragraph other than spaces. -/
theorem mem_and_ne_of_mem_words
    {paragraph : List Char} {word : Word} {char : Char}
    (member : word ∈ words paragraph) (inside : char ∈ word) :
    char ∈ paragraph ∧ char ≠ ' ' := by
  rw [words, splitAtChar_eq_splitOn, List.mem_filter] at member
  exact mem_and_ne_of_mem_splitOn member.1 inside

/-- Between the words of a line there are only spaces. -/
theorem mem_joinWords {line : List Word} {char : Char}
    (inside : char ∈ joinWords line) :
    char = ' ' ∨ ∃ word ∈ line, char ∈ word := by
  rcases mem_or_mem_of_mem_intercalate inside with space | inWord
  · exact .inl (List.mem_singleton.mp space)
  · exact .inr inWord

/-- Packing cuts the sequence of words and leaves their order alone. -/
theorem flatten_packFrom
    (width used : Nat) (line upcoming : List Word) :
    (packFrom width used line upcoming).flatten = line ++ upcoming := by
  induction upcoming generalizing used line with
  | nil =>
      rw [packFrom, List.flatten_singleton, List.append_nil]
  | cons word rest inductionHypothesis =>
      rw [packFrom]
      by_cases fits : used + 1 + word.length ≤ width
      · rw [if_pos fits, inductionHypothesis, List.append_assoc]
        rfl
      · rw [if_neg fits, List.flatten_cons, inductionHypothesis]
        rfl

theorem flatten_pack (width : Nat) (upcoming : List Word) :
    (pack width upcoming).flatten = upcoming := by
  cases upcoming with
  | nil =>
      rfl
  | cons word rest =>
      exact flatten_packFrom width word.length [word] rest

theorem mem_of_mem_wrapParagraph
    {width : Nat} {paragraph line : List Char} {char : Char}
    (member : line ∈ wrapParagraph width paragraph)
    (inside : char ∈ line) :
    char = ' ' ∨ char ∈ paragraph := by
  rw [wrapParagraph] at member
  cases found : words paragraph with
  | nil =>
      rw [found, List.mem_singleton] at member
      rw [member] at inside
      exact absurd inside List.not_mem_nil
  | cons first rest =>
      rw [found] at member
      obtain ⟨packed, packedMember, rfl⟩ := List.mem_map.mp member
      rcases mem_joinWords inside with space | ⟨word, wordMember, inWord⟩
      · exact .inl space
      · have wordOfParagraph : word ∈ words paragraph := by
          rw [found, ← flatten_pack width (first :: rest)]
          exact List.mem_flatten_of_mem packedMember wordMember
        exact .inr (mem_and_ne_of_mem_words wordOfParagraph inWord).1

/-- No wrapped line holds a line feed. -/
theorem not_mem_of_mem_wrap
    {width : Nat} {text line : String} (member : line ∈ wrap width text) :
    '\n' ∉ line.toList := by
  obtain ⟨chars, charsMember, rfl⟩ := List.mem_map.mp member
  obtain ⟨paragraph, paragraphMember, wrapped⟩ :=
    List.mem_flatMap.mp charsMember
  rw [String.toList_ofList]
  intro inside
  rcases mem_of_mem_wrapParagraph wrapped inside with space | inParagraph
  · exact absurd space (by decide)
  · exact not_mem_of_mem_lines paragraphMember inParagraph

end ManagedBinding.Text
