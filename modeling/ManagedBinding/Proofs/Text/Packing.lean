import ManagedBinding.Proofs.Text.Wrap
import Mathlib.Data.List.Chain

/-!
# Greedy packing

Words are packed into lines first fit.  The lines that come out are filled: a
line holds more than one word only if they fit, and the first word of the next
line would not have fitted.  These conditions determine the lines.

No cut of the words into admissible lines has fewer of them.  The step is an
exchange: a line that has been begun with fewer characters never takes more
lines for the words to come, and a line that has been begun with more of them
takes at most one line more.
-/

namespace ManagedBinding.Text

@[simp]
theorem joinWords_singleton (word : Word) : joinWords [word] = word :=
  List.intercalate_singleton

theorem joinWords_cons
    (word : Word) {rest : List Word} (nonempty : rest ≠ []) :
    joinWords (word :: rest) = word ++ ' ' :: joinWords rest := by
  rw [joinWords, List.intercalate_cons_of_ne_nil nonempty,
    List.append_assoc]
  rfl

/-- One more word takes a space and its characters. -/
theorem length_joinWords_concat
    {line : List Word} (nonempty : line ≠ []) (word : Word) :
    (joinWords (line ++ [word])).length =
      (joinWords line).length + 1 + word.length := by
  induction line with
  | nil =>
      exact absurd rfl nonempty
  | cons first rest inductionHypothesis =>
      by_cases last : rest = []
      · rw [last, List.singleton_append,
          joinWords_cons first (List.cons_ne_nil word []),
          joinWords_singleton, joinWords_singleton, List.length_append,
          List.length_cons]
        omega
      · have longer : rest ++ [word] ≠ [] := by
          simp
        have later := inductionHypothesis last
        rw [List.cons_append, joinWords_cons first longer,
          joinWords_cons first last, List.length_append,
          List.length_append, List.length_cons, List.length_cons]
        omega

/-- A line is at least as long as any of its beginnings. -/
theorem length_joinWords_le_append
    {line : List Word} (nonempty : line ≠ []) (more : List Word) :
    (joinWords line).length ≤ (joinWords (line ++ more)).length := by
  induction more generalizing line with
  | nil =>
      rw [List.append_nil]
  | cons word rest inductionHypothesis =>
      have longer : line ++ [word] ≠ [] := by
        simp
      have later := inductionHypothesis longer
      rw [length_joinWords_concat nonempty, List.append_assoc,
        List.singleton_append] at later
      omega

/-- The line is not too long, or it holds a single word. -/
def Fits (width : Nat) (line : List Word) : Prop :=
  (joinWords line).length ≤ width ∨ ∃ word : Word, line = [word]

theorem Fits.mono
    {narrow wide : Nat} (wider : narrow ≤ wide) {line : List Word}
    (fits : Fits narrow line) :
    Fits wide line := by
  rcases fits with short | single
  · exact .inl (short.trans wider)
  · exact .inr single

/-- Lines of words, each of which takes words as long as they fit. -/
structure Filled (width : Nat) (lines : List (List Word)) : Prop where
  nonempty : ∀ line ∈ lines, line ≠ []
  fits : ∀ line ∈ lines, Fits width line
  full :
    lines.IsChain fun line next =>
      ∀ word ∈ next.head?,
        width < (joinWords line).length + 1 + word.length

/-- The first line goes on from the words that it has been begun with. -/
theorem exists_cons_packFrom
    (width used : Nat) (line upcoming : List Word) :
    ∃ first others, packFrom width used line upcoming = first :: others ∧
      line <+: first := by
  induction upcoming generalizing used line with
  | nil =>
      exact ⟨line, [], rfl, List.prefix_rfl⟩
  | cons word rest inductionHypothesis =>
      rw [packFrom]
      by_cases room : used + 1 + word.length ≤ width
      · obtain ⟨first, others, packed, begun⟩ :=
          inductionHypothesis (used + 1 + word.length) (line ++ [word])
        rw [if_pos room]
        exact ⟨first, others, packed,
          (List.prefix_append line [word]).trans begun⟩
      · rw [if_neg room]
        exact ⟨line, _, rfl, List.prefix_rfl⟩

theorem filled_packFrom
    (width : Nat) {line : List Word} (nonempty : line ≠ [])
    (fits : Fits width line) (upcoming : List Word) :
    Filled width
      (packFrom width (joinWords line).length line upcoming) := by
  induction upcoming generalizing line with
  | nil =>
      rw [packFrom]
      refine ⟨?_, ?_, List.isChain_singleton line⟩
      · simpa using nonempty
      · simpa using fits
  | cons word rest inductionHypothesis =>
      rw [packFrom]
      by_cases room : (joinWords line).length + 1 + word.length ≤ width
      · rw [if_pos room]
        rw [← length_joinWords_concat nonempty] at room ⊢
        have longer : line ++ [word] ≠ [] := by
          simp
        exact inductionHypothesis longer (.inl room)
      · rw [if_neg room]
        have next : Filled width (packFrom width word.length [word] rest) := by
          have ofWord :=
            inductionHypothesis (List.cons_ne_nil word [])
              (.inr ⟨word, rfl⟩)
          rw [joinWords_singleton] at ofWord
          exact ofWord
        obtain ⟨first, others, packed, begun⟩ :=
          exists_cons_packFrom width word.length [word] rest
        rw [packed] at next ⊢
        have headEq : first.head? = some word := by
          obtain ⟨more, rfl⟩ := begun
          rfl
        refine ⟨?_, ?_, ?_⟩
        · exact List.forall_mem_cons.mpr ⟨nonempty, next.nonempty⟩
        · exact List.forall_mem_cons.mpr ⟨fits, next.fits⟩
        · refine List.isChain_cons_cons.mpr ⟨?_, next.full⟩
          intro tested atHead
          rw [headEq, Option.mem_some] at atHead
          rw [← atHead]
          omega

/-- Packing fills its lines. -/
theorem filled_pack (width : Nat) (upcoming : List Word) :
    Filled width (pack width upcoming) := by
  cases upcoming with
  | nil =>
      have noLine : ∀ line ∈ ([] : List (List Word)), False :=
        fun _ member => List.not_mem_nil member
      exact ⟨fun line member => absurd member (noLine line),
        fun line member => absurd member (noLine line), .nil⟩
  | cons word rest =>
      have ofWord :=
        filled_packFrom width (List.cons_ne_nil word [])
          (.inr ⟨word, rfl⟩) rest
      rw [joinWords_singleton] at ofWord
      exact ofWord

/-- Words that fit behind a line join it. -/
theorem packFrom_append
    {width : Nat} {line : List Word} (nonempty : line ≠ [])
    {more : List Word}
    (fits : more = [] ∨ (joinWords (line ++ more)).length ≤ width)
    (upcoming : List Word) :
    packFrom width (joinWords line).length line (more ++ upcoming) =
      packFrom width (joinWords (line ++ more)).length (line ++ more)
        upcoming := by
  induction more generalizing line with
  | nil =>
      rw [List.append_nil, List.nil_append]
  | cons word rest inductionHypothesis =>
      have whole : (joinWords (line ++ word :: rest)).length ≤ width := by
        rcases fits with empty | short
        · exact absurd empty (List.cons_ne_nil word rest)
        · exact short
      have regroup : line ++ word :: rest = line ++ [word] ++ rest := by
        rw [List.append_assoc, List.singleton_append]
      have longer : line ++ [word] ≠ [] := by
        simp
      have room : (joinWords line).length + 1 + word.length ≤ width := by
        have begun := length_joinWords_le_append longer rest
        rw [length_joinWords_concat nonempty] at begun
        rw [regroup] at whole
        omega
      rw [regroup] at whole ⊢
      rw [List.cons_append, packFrom, if_pos room,
        ← length_joinWords_concat nonempty,
        inductionHypothesis longer (.inr whole)]

/-- A line that fits is packed as a whole, and the words behind it come next. -/
theorem pack_fits_append
    {width : Nat} {line : List Word} (nonempty : line ≠ [])
    (fits : Fits width line) (upcoming : List Word) :
    pack width (line ++ upcoming) =
      packFrom width (joinWords line).length line upcoming := by
  obtain ⟨word, more, rfl⟩ := List.exists_cons_of_ne_nil nonempty
  have moreFits :
      more = [] ∨ (joinWords ([word] ++ more)).length ≤ width := by
    rcases fits with short | ⟨other, single⟩
    · exact .inr short
    · exact .inl (List.cons.inj single).2
  have joined :=
    packFrom_append (List.cons_ne_nil word []) moreFits upcoming
  rw [joinWords_singleton] at joined
  exact joined

/-- Packing finds every division into filled lines. -/
theorem pack_flatten_of_filled
    {width : Nat} {lines : List (List Word)} (filled : Filled width lines) :
    pack width lines.flatten = lines := by
  induction lines with
  | nil =>
      rfl
  | cons line rest inductionHypothesis =>
      obtain ⟨nonempty, fits, full⟩ := filled
      rw [List.forall_mem_cons] at nonempty fits
      rw [List.flatten_cons, pack_fits_append nonempty.1 fits.1]
      cases rest with
      | nil =>
          rfl
      | cons next others =>
          rw [List.isChain_cons_cons] at full
          have later :=
            inductionHypothesis ⟨nonempty.2, fits.2, full.2⟩
          obtain ⟨word, more, rfl⟩ :=
            List.exists_cons_of_ne_nil
              (nonempty.2 next List.mem_cons_self)
          have noRoom :
              ¬ (joinWords line).length + 1 + word.length ≤ width :=
            Nat.not_le.mpr (full.1 word rfl)
          rw [List.flatten_cons, List.cons_append] at later ⊢
          rw [packFrom, if_neg noRoom]
          exact congrArg (line :: ·) later

/-- Fewer characters on the line that is being filled never cost a line, and
more of them cost at most one. -/
theorem length_packFrom_le
    (width : Nat) (upcoming : List Word) :
    (∀ (used other : Nat) (line begun : List Word), used ≤ other →
      (packFrom width used line upcoming).length ≤
        (packFrom width other begun upcoming).length) ∧
      ∀ (used other : Nat) (line begun : List Word),
        (packFrom width used line upcoming).length ≤
          (packFrom width other begun upcoming).length + 1 := by
  induction upcoming with
  | nil =>
      constructor
      · intro used other line begun _
        exact Nat.le_refl 1
      · intro used other line begun
        exact Nat.le_succ 1
  | cons word rest inductionHypothesis =>
      obtain ⟨fewer, atMostOne⟩ := inductionHypothesis
      constructor
      · intro used other line begun usedLe
        rw [packFrom, packFrom]
        by_cases room : used + 1 + word.length ≤ width
        · by_cases otherRoom : other + 1 + word.length ≤ width
          · rw [if_pos room, if_pos otherRoom]
            exact fewer _ _ _ _ (by omega)
          · rw [if_pos room, if_neg otherRoom, List.length_cons]
            exact atMostOne _ _ _ _
        · have otherFull : ¬ other + 1 + word.length ≤ width := by
            omega
          rw [if_neg room, if_neg otherFull, List.length_cons,
            List.length_cons]
      · intro used other line begun
        rw [packFrom, packFrom]
        by_cases room : used + 1 + word.length ≤ width
        · by_cases otherRoom : other + 1 + word.length ≤ width
          · rw [if_pos room, if_pos otherRoom]
            exact atMostOne _ _ _ _
          · rw [if_pos room, if_neg otherRoom, List.length_cons]
            exact (atMostOne _ _ _ _).trans (Nat.le_succ _)
        · by_cases otherRoom : other + 1 + word.length ≤ width
          · rw [if_neg room, if_pos otherRoom, List.length_cons]
            exact Nat.succ_le_succ (fewer _ _ _ _ (by omega))
          · rw [if_neg room, if_neg otherRoom, List.length_cons,
              List.length_cons]
            exact Nat.le_succ _

/-- A line that fits costs at most one line. -/
theorem length_pack_append_le
    {width : Nat} {line : List Word} (fits : Fits width line)
    (upcoming : List Word) :
    (pack width (line ++ upcoming)).length ≤
      (pack width upcoming).length + 1 := by
  by_cases nonempty : line = []
  · rw [nonempty]
    exact Nat.le_succ _
  · rw [pack_fits_append nonempty fits]
    cases upcoming with
    | nil =>
        exact Nat.le_refl 1
    | cons word rest =>
        rw [packFrom, pack]
        by_cases room : (joinWords line).length + 1 + word.length ≤ width
        · rw [if_pos room]
          exact (length_packFrom_le width rest).2 _ _ _ _
        · rw [if_neg room, List.length_cons]

/-- No cut of the words into lines that fit has fewer lines. -/
theorem length_pack_flatten_le
    {width : Nat} {cut : List (List Word)}
    (fits : ∀ line ∈ cut, Fits width line) :
    (pack width cut.flatten).length ≤ cut.length := by
  induction cut with
  | nil =>
      exact Nat.le_refl 0
  | cons line rest inductionHypothesis =>
      rw [List.forall_mem_cons] at fits
      have later := inductionHypothesis fits.2
      have here := length_pack_append_le fits.1 rest.flatten
      rw [List.flatten_cons, List.length_cons]
      omega

end ManagedBinding.Text
