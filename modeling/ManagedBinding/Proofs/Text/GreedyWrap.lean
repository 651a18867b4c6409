import ManagedBinding.Proofs.Text.Packing
import ManagedBinding.Proofs.Text.Paragraphs
import ManagedBinding.Proofs.Text.Runs
import Mathlib.Data.List.Forall2

/-!
# Greedy wrapping

What the lines of a wrapped text are, without the loop that packs them: the
text is trimmed, every paragraph of what remains has a block of lines, and the
blocks follow each other.  A paragraph of spaces has one empty line.  Every
other paragraph has its words divided, in their order, into filled lines.

The rules leave no choice, so they hold of the wrapped lines and of no others.
-/

namespace ManagedBinding.Text

/-- The lines of one paragraph. -/
inductive Block (width : Nat) (paragraph : List Char) :
    List (List Char) → Prop
  | empty :
      (∀ char ∈ paragraph, char = ' ') →
      Block width paragraph [[]]
  | filled {lines : List (List Word)} :
      (∃ char ∈ paragraph, char ≠ ' ') →
      HasRuns (· == ' ') paragraph lines.flatten →
      Filled width lines →
      (∀ line ∈ lines, joinWords line ≠ []) →
      Block width paragraph (lines.map joinWords)

/-- The lines are the blocks of the paragraphs of the trimmed text. -/
def Wraps (width : Nat) (text : String) (lines : List String) : Prop :=
  ∃ trimmed blocks, Trims text.toList trimmed ∧
    List.Forall₂ (Block width) (paragraphs trimmed) blocks ∧
    lines.map String.toList = blocks.flatten

theorem words_eq_nil_iff (paragraph : List Char) :
    words paragraph = [] ↔ ∀ char ∈ paragraph, char = ' ' := by
  rw [words_eq_runs, runs_eq_nil_iff]
  simp only [beq_iff_eq]

theorem wrapParagraph_of_words_eq_nil
    (width : Nat) {paragraph : List Char} (noWords : words paragraph = []) :
    wrapParagraph width paragraph = [[]] := by
  rw [wrapParagraph, noWords]

theorem wrapParagraph_of_words_ne_nil
    (width : Nat) {paragraph : List Char}
    (someWords : words paragraph ≠ []) :
    wrapParagraph width paragraph =
      (pack width (words paragraph)).map joinWords := by
  rw [wrapParagraph]
  split
  · next noWords =>
      exact absurd noWords someWords
  · next first rest found =>
      rw [found]

/-- Between words that are not empty, a line is not empty. -/
theorem joinWords_ne_nil
    {line : List Word} (nonempty : line ≠ [])
    (wordsNonempty : ∀ word ∈ line, word ≠ []) :
    joinWords line ≠ [] := by
  cases line with
  | nil =>
      exact absurd rfl nonempty
  | cons word rest =>
      rw [List.forall_mem_cons] at wordsNonempty
      by_cases last : rest = []
      · rw [last, joinWords_singleton]
        exact wordsNonempty.1
      · rw [joinWords_cons word last]
        simp

/-- The words of a packed line are words of the paragraph. -/
theorem nonempty_and_unspaced_of_mem_pack
    {width : Nat} {paragraph : List Char} {line : List Word}
    (member : line ∈ pack width (words paragraph)) {word : Word}
    (inLine : word ∈ line) :
    word ≠ [] ∧ ' ' ∉ word := by
  have wordMember : word ∈ runs (· == ' ') paragraph := by
    rw [← words_eq_runs, ← flatten_pack width (words paragraph)]
    exact List.mem_flatten_of_mem member inLine
  obtain ⟨nonempty, goesOn⟩ := nonempty_and_goesOn_of_mem_runs wordMember
  refine ⟨nonempty, ?_⟩
  intro space
  exact absurd (goesOn ' ' space) (by decide)

theorem joinWords_ne_nil_of_mem_pack
    {width : Nat} {paragraph : List Char} {line : List Word}
    (member : line ∈ pack width (words paragraph)) :
    joinWords line ≠ [] :=
  joinWords_ne_nil ((filled_pack width (words paragraph)).nonempty line member)
    fun _ inLine => (nonempty_and_unspaced_of_mem_pack member inLine).1

theorem block_wrapParagraph (width : Nat) (paragraph : List Char) :
    Block width paragraph (wrapParagraph width paragraph) := by
  by_cases noWords : words paragraph = []
  · rw [wrapParagraph_of_words_eq_nil width noWords]
    exact .empty ((words_eq_nil_iff paragraph).mp noWords)
  · have filled := filled_pack width (words paragraph)
    have packed := flatten_pack width (words paragraph)
    rw [wrapParagraph_of_words_ne_nil width noWords]
    refine .filled ?_ ?_ filled ?_
    · by_contra onlySpaces
      push Not at onlySpaces
      exact noWords ((words_eq_nil_iff paragraph).mpr onlySpaces)
    · rw [packed, words_eq_runs]
      exact hasRuns_runs paragraph
    · exact fun line member => joinWords_ne_nil_of_mem_pack member

/-- A paragraph has one block only. -/
theorem block_iff
    {width : Nat} {paragraph : List Char} {block : List (List Char)} :
    Block width paragraph block ↔
      wrapParagraph width paragraph = block := by
  constructor
  · rintro (onlySpaces | ⟨visible, found, filled, _⟩)
    · exact wrapParagraph_of_words_eq_nil width
        ((words_eq_nil_iff paragraph).mpr onlySpaces)
    · rw [hasRuns_iff, ← words_eq_runs] at found
      have someWords : words paragraph ≠ [] := by
        intro noWords
        obtain ⟨char, member, notSpace⟩ := visible
        exact notSpace ((words_eq_nil_iff paragraph).mp noWords char member)
      rw [wrapParagraph_of_words_ne_nil width someWords, found,
        pack_flatten_of_filled filled]
  · rintro rfl
    exact block_wrapParagraph width paragraph

theorem wrapParagraph_ne_nil (width : Nat) (paragraph : List Char) :
    wrapParagraph width paragraph ≠ [] := by
  by_cases noWords : words paragraph = []
  · rw [wrapParagraph_of_words_eq_nil width noWords]
    exact List.cons_ne_nil _ _
  · rw [wrapParagraph_of_words_ne_nil width noWords, ne_eq,
      List.map_eq_nil_iff]
    intro noLines
    have packed := flatten_pack width (words paragraph)
    rw [noLines] at packed
    exact noWords packed.symm

/-- The wrapped lines are the blocks of the paragraphs. -/
theorem toList_wrap (width : Nat) (text : String) :
    (wrap width text).map String.toList =
      (paragraphs (trim text.toList)).flatMap
        (wrapParagraph (max width 1)) := by
  rw [wrap, lines_trim, List.map_map]
  have restored : String.toList ∘ String.ofList = id := by
    funext chars
    exact String.toList_ofList
  rw [restored, List.map_id]

theorem map_toList_injective :
    Function.Injective (List.map String.toList) :=
  List.map_injective_iff.mpr fun _ _ same => String.toList_inj.mp same

theorem wrap_eq_iff {width : Nat} {text : String} {lines : List String} :
    wrap width text = lines ↔ Wraps (max width 1) text lines := by
  have blocksOf (blocks : List (List (List Char))) :
      List.Forall₂ (Block (max width 1)) (paragraphs (trim text.toList))
          blocks ↔
        (paragraphs (trim text.toList)).map (wrapParagraph (max width 1)) =
          blocks := by
    rw [← List.forall₂_eq_eq_eq, List.forall₂_map_left_iff]
    exact ⟨.imp fun _ _ => block_iff.mp, .imp fun _ _ => block_iff.mpr⟩
  constructor
  · rintro rfl
    refine ⟨trim text.toList,
      (paragraphs (trim text.toList)).map (wrapParagraph (max width 1)),
      trims_trim text.toList, (blocksOf _).mpr rfl, ?_⟩
    rw [toList_wrap, List.flatMap_def]
  · rintro ⟨trimmed, blocks, trims, wrapped, sameLines⟩
    rw [← trims_iff.mp trims, blocksOf] at wrapped
    rw [← wrapped, ← List.flatMap_def, ← toList_wrap] at sameLines
    exact (map_toList_injective sameLines).symm

/-- Only a blank text has no lines. -/
theorem wrap_eq_nil_iff (width : Nat) (text : String) :
    wrap width text = [] ↔
      ∀ char ∈ text.toList, isBlankChar char = true := by
  rw [← trim_eq_nil_iff, ← List.map_eq_nil_iff, toList_wrap,
    List.flatMap_eq_nil_iff]
  constructor
  · intro noBlocks
    by_contra visible
    have someParagraph : paragraphs (trim text.toList) ≠ [] := by
      rw [paragraphs, if_neg (mt List.isEmpty_iff.mp visible), ne_eq,
        List.map_eq_nil_iff]
      exact List.splitOn_ne_nil '\n' (trim text.toList)
    obtain ⟨first, rest, found⟩ := List.exists_cons_of_ne_nil someParagraph
    exact wrapParagraph_ne_nil _ first
      (noBlocks first (found ▸ List.mem_cons_self))
  · intro blank paragraph member
    rw [blank] at member
    exact absurd member List.not_mem_nil

/-- A wrapped line is empty, or it is one word, or it is not too long. -/
theorem length_le_of_mem_wrap
    {width : Nat} {text line : String} (member : line ∈ wrap width text) :
    line.toList = [] ∨ (line.toList ≠ [] ∧ ' ' ∉ line.toList) ∨
      line.toList.length ≤ width := by
  have inBlocks := List.mem_map_of_mem (f := String.toList) member
  rw [toList_wrap] at inBlocks
  obtain ⟨paragraph, _, inBlock⟩ := List.mem_flatMap.mp inBlocks
  by_cases noWords : words paragraph = []
  · rw [wrapParagraph_of_words_eq_nil _ noWords] at inBlock
    exact .inl (List.mem_singleton.mp inBlock)
  · rw [wrapParagraph_of_words_ne_nil _ noWords] at inBlock
    obtain ⟨packed, packedMember, joined⟩ := List.mem_map.mp inBlock
    have filled := filled_pack (max width 1) (words paragraph)
    obtain ⟨word, rest, rfl⟩ :=
      List.exists_cons_of_ne_nil (filled.nonempty packed packedMember)
    have wordOfParagraph :=
      nonempty_and_unspaced_of_mem_pack packedMember List.mem_cons_self
    rw [← joined]
    by_cases single : rest = []
    · rw [single, joinWords_singleton]
      exact .inr (.inl wordOfParagraph)
    · have long : 2 ≤ (joinWords (word :: rest)).length := by
        have wordLength := List.length_pos_iff.mpr wordOfParagraph.1
        rw [joinWords_cons word single, List.length_append,
          List.length_cons]
        omega
      rcases filled.fits _ packedMember with short | ⟨other, alone⟩
      · refine .inr (.inr ?_)
        omega
      · exact absurd (List.cons.inj alone).2 single

/-- The wrapped lines are the lines that follow the rules of greedy wrapping,
where width zero counts as one, and only a blank text has none. -/
theorem wrap_is_greedy (width : Nat) (text : String) :
    (∀ lines : List String,
        wrap width text = lines ↔ Wraps (max width 1) text lines) ∧
      (wrap width text = [] ↔
        ∀ char ∈ text.toList, isBlankChar char = true) :=
  ⟨fun _ => wrap_eq_iff, wrap_eq_nil_iff width text⟩

/-- Words behind tabs and carriage returns, a paragraph of spaces, a word that
is too long and a word that fits exactly. -/
example :
    wrap 5 "\t one  two\r\n   \nthree/four a\tb c\r" =
      ["one", "two", "", "three/four", "a\tb c"] := by
  decide

end ManagedBinding.Text
