import ManagedBinding.Proofs.Text.GreedyWrap
import Mathlib.Algebra.Order.BigOperators.Group.List
import Mathlib.Algebra.Order.Group.Nat
import Mathlib.Algebra.Ring.Nat
import Mathlib.Order.Bounds.Basic

/-!
# Wrapping takes the fewest lines

A cut of a paragraph divides its words, in their order, into lines that are
not too long or hold a single word.  Greedy packing makes one of these cuts,
and no other has fewer lines, so a wrapped text has as few lines as its
paragraphs allow.  More width allows more cuts and hence never takes more
lines.

A paragraph without words takes a line whatever its cut is; the lines that
hold words are counted on their own as well.
-/

namespace ManagedBinding.Text

/-- A division of the words of a paragraph into lines that fit. -/
structure Cuts
    (width : Nat) (paragraph : List Char) (cut : List (List Word)) :
    Prop where
  hasWords : HasRuns (· == ' ') paragraph cut.flatten
  fits : ∀ line ∈ cut, Fits width line

/-- A cut for every paragraph of the trimmed text. -/
def CutsText
    (width : Nat) (text : String) (cuts : List (List (List Word))) : Prop :=
  List.Forall₂ (Cuts width) (paragraphs (trim text.toList)) cuts

theorem Cuts.mono
    {narrow wide : Nat} (wider : narrow ≤ wide) {paragraph : List Char}
    {cut : List (List Word)} (cuts : Cuts narrow paragraph cut) :
    Cuts wide paragraph cut :=
  ⟨cuts.hasWords, fun line member => (cuts.fits line member).mono wider⟩

theorem CutsText.mono
    {narrow wide : Nat} (wider : narrow ≤ wide) {text : String}
    {cuts : List (List (List Word))} (cutsText : CutsText narrow text cuts) :
    CutsText wide text cuts :=
  List.Forall₂.imp (fun _ _ ofParagraph => ofParagraph.mono wider) cutsText

/-- The lines that hold words. -/
def wordLineCount (cuts : List (List (List Word))) : Nat :=
  (cuts.map List.length).sum

/-- All lines, at least one for every paragraph. -/
def lineCount (cuts : List (List (List Word))) : Nat :=
  (cuts.map fun cut => max cut.length 1).sum

theorem cuts_pack (width : Nat) (paragraph : List Char) :
    Cuts width paragraph (pack width (words paragraph)) := by
  refine ⟨?_, (filled_pack width (words paragraph)).fits⟩
  rw [flatten_pack, words_eq_runs]
  exact hasRuns_runs paragraph

theorem length_pack_le_of_cuts
    {width : Nat} {paragraph : List Char} {cut : List (List Word)}
    (cuts : Cuts width paragraph cut) :
    (pack width (words paragraph)).length ≤ cut.length := by
  have found : words paragraph = cut.flatten := by
    rw [words_eq_runs]
    exact hasRuns_iff.mp cuts.hasWords
  rw [found]
  exact length_pack_flatten_le cuts.fits

theorem length_wrapParagraph (width : Nat) (paragraph : List Char) :
    (wrapParagraph width paragraph).length =
      max (pack width (words paragraph)).length 1 := by
  by_cases noWords : words paragraph = []
  · rw [wrapParagraph_of_words_eq_nil width noWords, noWords]
    rfl
  · have someLine := wrapParagraph_ne_nil width paragraph
    rw [← List.length_pos_iff] at someLine
    rw [wrapParagraph_of_words_ne_nil width noWords,
      List.length_map] at someLine ⊢
    omega

/-- The lines of a paragraph that are not empty are those that hold words. -/
theorem length_filter_wrapParagraph (width : Nat) (paragraph : List Char) :
    ((wrapParagraph width paragraph).filter
        fun line => !line.isEmpty).length =
      (pack width (words paragraph)).length := by
  by_cases noWords : words paragraph = []
  · rw [wrapParagraph_of_words_eq_nil width noWords, noWords]
    rfl
  · have allKept :
        ((pack width (words paragraph)).map joinWords).filter
            (fun line => !line.isEmpty) =
          (pack width (words paragraph)).map joinWords := by
      rw [List.filter_eq_self]
      intro line member
      obtain ⟨packed, packedMember, rfl⟩ := List.mem_map.mp member
      have nonempty := joinWords_ne_nil_of_mem_pack packedMember
      simpa using nonempty
    rw [wrapParagraph_of_words_ne_nil width noWords, allKept,
      List.length_map]

section Texts

variable (width : Nat) (text : String)

/-- The cut that greedy packing makes. -/
def greedyCuts : List (List (List Word)) :=
  (paragraphs (trim text.toList)).map fun paragraph =>
    pack (max width 1) (words paragraph)

theorem cutsText_greedyCuts :
    CutsText (max width 1) text (greedyCuts width text) := by
  rw [CutsText, greedyCuts, List.forall₂_map_right_iff, List.forall₂_same]
  exact fun paragraph _ => cuts_pack (max width 1) paragraph

theorem length_wrap :
    (wrap width text).length = lineCount (greedyCuts width text) := by
  rw [← List.length_map String.toList, toList_wrap, List.length_flatMap,
    lineCount, greedyCuts, List.map_map]
  simp only [length_wrapParagraph]
  rfl

theorem length_filter_wrap :
    ((wrap width text).filter (· ≠ "")).length =
      wordLineCount (greedyCuts width text) := by
  have sameTest :
      (wrap width text).filter (· ≠ "") =
        (wrap width text).filter
          ((fun line : List Char => !line.isEmpty) ∘ String.toList) := by
    refine List.filter_congr ?_
    intro line _
    by_cases empty : line = ""
    · rw [empty]
      rfl
    · have nonempty : line.toList ≠ [] :=
        mt String.toList_eq_nil_iff.mp empty
      simp [empty, nonempty]
  rw [sameTest, ← List.length_map String.toList, ← List.filter_map,
    toList_wrap, List.filter_flatMap, List.length_flatMap, wordLineCount,
    greedyCuts, List.map_map]
  simp only [length_filter_wrapParagraph]
  rfl

variable {width text}

/-- Paragraph by paragraph, the greedy cut has the fewest lines. -/
theorem forall₂_length_greedyCuts
    {cuts : List (List (List Word))}
    (cutsText : CutsText (max width 1) text cuts) :
    List.Forall₂ (fun greedy cut => greedy.length ≤ cut.length)
      (greedyCuts width text) cuts := by
  rw [greedyCuts, List.forall₂_map_left_iff]
  exact cutsText.imp fun _ _ ofParagraph => length_pack_le_of_cuts ofParagraph

/-- Sums of counts that grow with the number of lines compare as the cuts
do. -/
theorem sum_count_le_of_forall₂
    {count : Nat → Nat} (monotone : Monotone count)
    {fewer more : List (List (List Word))}
    (each : List.Forall₂ (fun left right => left.length ≤ right.length)
      fewer more) :
    (fewer.map fun cut => count cut.length).sum ≤
      (more.map fun cut => count cut.length).sum := by
  refine List.Forall₂.sum_le_sum ?_
  rw [List.forall₂_map_left_iff, List.forall₂_map_right_iff]
  exact each.imp fun _ _ shorter => monotone shorter

theorem lineCount_greedyCuts_le
    {cuts : List (List (List Word))}
    (cutsText : CutsText (max width 1) text cuts) :
    lineCount (greedyCuts width text) ≤ lineCount cuts :=
  sum_count_le_of_forall₂ (fun _ _ shorter => max_le_max_right 1 shorter)
    (forall₂_length_greedyCuts cutsText)

theorem wordLineCount_greedyCuts_le
    {cuts : List (List (List Word))}
    (cutsText : CutsText (max width 1) text cuts) :
    wordLineCount (greedyCuts width text) ≤ wordLineCount cuts :=
  sum_count_le_of_forall₂ monotone_id (forall₂_length_greedyCuts cutsText)

end Texts

/-- Among all cuts of the paragraphs the greedy one has the fewest lines,
whether all lines are counted or only those that hold words, and more width
never takes more lines. -/
theorem wrap_takes_fewest_lines (text : String) :
    (∀ width : Nat,
        IsLeast
            {count | ∃ cuts, CutsText (max width 1) text cuts ∧
              lineCount cuts = count}
            (wrap width text).length ∧
          IsLeast
            {count | ∃ cuts, CutsText (max width 1) text cuts ∧
              wordLineCount cuts = count}
            ((wrap width text).filter (· ≠ "")).length) ∧
      Antitone fun width : Nat => (wrap width text).length := by
  refine ⟨fun width => ⟨⟨?_, ?_⟩, ?_, ?_⟩, ?_⟩
  · exact ⟨greedyCuts width text, cutsText_greedyCuts width text,
      (length_wrap width text).symm⟩
  · rintro count ⟨cuts, cutsText, rfl⟩
    rw [length_wrap]
    exact lineCount_greedyCuts_le cutsText
  · exact ⟨greedyCuts width text, cutsText_greedyCuts width text,
      (length_filter_wrap width text).symm⟩
  · rintro count ⟨cuts, cutsText, rfl⟩
    rw [length_filter_wrap]
    exact wordLineCount_greedyCuts_le cutsText
  · intro narrow wide wider
    -- The greedy cut for the narrow lines is a cut for the wide ones.
    have stillCuts : CutsText (max wide 1) text (greedyCuts narrow text) :=
      (cutsText_greedyCuts narrow text).mono (max_le_max_right 1 wider)
    change (wrap wide text).length ≤ (wrap narrow text).length
    rw [length_wrap, length_wrap]
    exact lineCount_greedyCuts_le stillCuts

end ManagedBinding.Text
