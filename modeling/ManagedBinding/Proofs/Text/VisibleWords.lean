import ManagedBinding.Proofs.Text.GreedyWrap

/-!
# Words between blanks

Wrapping packs the words between spaces.  A reader takes any blank for the end
of a word, tabs and line feeds among them, and a line may hold other blanks
than spaces.  Still a text has the same words for its reader when it is
wrapped, since everything that wrapping takes away or puts in is blank.
-/

namespace ManagedBinding.Text

/-- The runs of characters that are not blank. -/
abbrev visibleWords (chars : List Char) : List (List Char) :=
  runs isBlankChar chars

theorem visibleWords_trim (chars : List Char) :
    visibleWords (trim chars) = visibleWords chars := by
  obtain ⟨front, back, whole, frontBlank, backBlank⟩ :=
    (trims_trim chars).between
  calc
    visibleWords (trim chars) = visibleWords (front ++ trim chars) :=
      (runs_of_all_append (trim chars) frontBlank).symm
    _ = visibleWords (front ++ trim chars ++ back) :=
      (runs_append_of_all (front ++ trim chars) backBlank).symm
    _ = visibleWords chars := by
      rw [← whole]

theorem visibleWords_trimEnd (chars : List Char) :
    visibleWords (trimEnd chars) = visibleWords chars := by
  obtain ⟨back, whole, backBlank⟩ := exists_trimEnd_append chars
  calc
    visibleWords (trimEnd chars) = visibleWords (trimEnd chars ++ back) :=
      (runs_append_of_all (trimEnd chars) backBlank).symm
    _ = visibleWords chars := by
      rw [← whole]

theorem visibleWords_dropReturn (line : List Char) :
    visibleWords (dropReturn line) = visibleWords line := by
  rw [dropReturn]
  by_cases carriageReturn : line.getLast? = some '\r'
  · have whole : line = line.dropLast ++ ['\r'] :=
      (List.dropLast_append_getLast? '\r' carriageReturn).symm
    have blank : ∀ char ∈ ['\r'], isBlankChar char = true :=
      List.forall_mem_singleton.mpr (by decide)
    have dropped := runs_append_of_all line.dropLast blank
    rw [← whole] at dropped
    rw [if_pos carriageReturn]
    exact dropped.symm
  · rw [if_neg carriageReturn]

theorem flatMap_visibleWords_paragraphs (chars : List Char) :
    (paragraphs chars).flatMap visibleWords = visibleWords chars := by
  by_cases empty : chars = []
  · rw [empty]
    rfl
  · have parts :
        visibleWords (List.intercalate ['\n'] (chars.splitOn '\n')) =
          (chars.splitOn '\n').flatMap visibleWords :=
      runs_intercalate (by decide) (chars.splitOn '\n')
    rw [List.intercalate_splitOn] at parts
    rw [paragraphs, if_neg (mt List.isEmpty_iff.mp empty),
      List.flatMap_map]
    simp only [visibleWords_dropReturn]
    exact parts.symm

/-- The words between blanks are those of the words between spaces. -/
theorem flatMap_visibleWords_words (paragraph : List Char) :
    (words paragraph).flatMap visibleWords = visibleWords paragraph := by
  rw [words_eq_runs]
  refine (hasRuns_runs paragraph).flatMap_runs ?_
  intro char space
  rw [beq_iff_eq.mp space]
  decide

theorem visibleWords_joinWords (line : List Word) :
    visibleWords (joinWords line) = line.flatMap visibleWords :=
  runs_intercalate (by decide) line

theorem flatMap_visibleWords_wrapParagraph
    (width : Nat) (paragraph : List Char) :
    (wrapParagraph width paragraph).flatMap visibleWords =
      visibleWords paragraph := by
  by_cases noWords : words paragraph = []
  · have sameWords := flatMap_visibleWords_words paragraph
    rw [noWords] at sameWords
    rw [wrapParagraph_of_words_eq_nil width noWords, ← sameWords]
    rfl
  · have regroup (lines : List (List Word)) :
        lines.flatMap (fun line => line.flatMap visibleWords) =
          lines.flatten.flatMap visibleWords := by
      rw [← List.flatMap_id, List.flatMap_assoc]
      rfl
    rw [wrapParagraph_of_words_ne_nil width noWords, List.flatMap_map]
    simp only [visibleWords_joinWords]
    rw [regroup, flatten_pack, flatMap_visibleWords_words]

/-- A wrapped text has the words of the text between its blanks. -/
theorem flatMap_visibleWords_wrap (width : Nat) (text : String) :
    ((wrap width text).map String.toList).flatMap visibleWords =
      visibleWords text.toList := by
  rw [toList_wrap, List.flatMap_assoc]
  simp only [flatMap_visibleWords_wrapParagraph]
  rw [flatMap_visibleWords_paragraphs, visibleWords_trim]

end ManagedBinding.Text
