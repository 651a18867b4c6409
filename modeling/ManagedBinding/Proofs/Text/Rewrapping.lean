import ManagedBinding.Proofs.Text.GreedyWrap

/-!
# Wrapping again

The lines of a wrapped text, joined by line feeds, are a text that wraps to the
same lines.  Three things let a list of lines stay as it is: no line holds a
line feed or ends with a carriage return, so the lines are the paragraphs of
the joined text; each line is its own block, since its words fit on it; and
there is a visible character at both ends, so nothing is trimmed.

The last point is where the trimmed text comes in.  Lines inside may start or
end with tabs, but the first character of the first line and the last one of
the last line are those of the trimmed text: neither the cut into paragraphs,
nor the cut into words, nor packing moves them.
-/

namespace ManagedBinding.Text

/-- The first part starts with the character. -/
def BeginsWith (char : Char) (parts : List (List Char)) : Prop :=
  ∃ rest others, parts = (char :: rest) :: others

/-- The last part ends with the character. -/
def EndsWith (char : Char) (parts : List (List Char)) : Prop :=
  ∃ others start, parts = others ++ [start ++ [char]]

theorem beginsWith_splitOn
    {char separator : Char} (different : char ≠ separator)
    (chars : List Char) :
    BeginsWith char ((char :: chars).splitOn separator) := by
  have goesOn : ¬ (char == separator) = true := by
    rw [beq_iff_eq]
    exact different
  rw [List.splitOn_cons_eq_if_modifyHead, if_neg goesOn]
  obtain ⟨part, others, parts⟩ :=
    List.exists_cons_of_ne_nil (List.splitOn_ne_nil separator chars)
  rw [parts]
  exact ⟨part, others, rfl⟩

theorem endsWith_splitOn
    {char separator : Char} (different : char ≠ separator)
    (chars : List Char) :
    EndsWith char ((chars ++ [char]).splitOn separator) := by
  induction chars with
  | nil =>
      have goesOn : ¬ (char == separator) = true := by
        rw [beq_iff_eq]
        exact different
      rw [List.nil_append, List.splitOn_cons_eq_if_modifyHead,
        if_neg goesOn]
      exact ⟨[], [], rfl⟩
  | cons first rest inductionHypothesis =>
      obtain ⟨others, start, parts⟩ := inductionHypothesis
      rw [List.cons_append, List.splitOn_cons_eq_if_modifyHead, parts]
      by_cases cuts : (first == separator) = true
      · rw [if_pos cuts]
        exact ⟨[] :: others, start, rfl⟩
      · rw [if_neg cuts]
        cases others with
        | nil => exact ⟨[], first :: start, rfl⟩
        | cons part inner => exact ⟨(first :: part) :: inner, start, rfl⟩

theorem BeginsWith.intercalate
    {char : Char} {parts : List (List Char)} (begins : BeginsWith char parts)
    (separator : List Char) :
    ∃ rest, List.intercalate separator parts = char :: rest := by
  obtain ⟨rest, others, rfl⟩ := begins
  by_cases last : others = []
  · rw [last, List.intercalate_singleton]
    exact ⟨rest, rfl⟩
  · rw [List.intercalate_cons_of_ne_nil last]
    exact ⟨_, rfl⟩

theorem EndsWith.intercalate
    {char : Char} {parts : List (List Char)} (ends : EndsWith char parts)
    (separator : List Char) :
    ∃ start, List.intercalate separator parts = start ++ [char] := by
  obtain ⟨others, start, rfl⟩ := ends
  exact ⟨_, intercalate_concat_append separator others start [char]⟩

theorem beginsWith_words
    {char : Char} (notSpace : char ≠ ' ') (chars : List Char) :
    BeginsWith char (words (char :: chars)) := by
  obtain ⟨rest, others, parts⟩ := beginsWith_splitOn notSpace chars
  rw [words, splitAtChar_eq_splitOn, parts]
  exact ⟨rest, _, List.filter_cons_of_pos rfl⟩

theorem endsWith_words
    {char : Char} (notSpace : char ≠ ' ') (chars : List Char) :
    EndsWith char (words (chars ++ [char])) := by
  obtain ⟨others, start, parts⟩ := endsWith_splitOn notSpace chars
  have kept :
      [start ++ [char]].filter (fun word => !word.isEmpty) =
        [start ++ [char]] := by
    simp
  rw [words, splitAtChar_eq_splitOn, parts, List.filter_append, kept]
  exact ⟨_, start, rfl⟩

/-- The first word of all is the first one of the first line. -/
theorem BeginsWith.map_joinWords
    {char : Char} {lines : List (List Word)}
    (nonempty : ∀ line ∈ lines, line ≠ [])
    (begins : BeginsWith char lines.flatten) :
    BeginsWith char (lines.map joinWords) := by
  obtain ⟨rest, others, whole⟩ := begins
  cases lines with
  | nil => exact absurd whole.symm (List.cons_ne_nil _ _)
  | cons line lower =>
      obtain ⟨word, behind, rfl⟩ :=
        List.exists_cons_of_ne_nil (nonempty line List.mem_cons_self)
      rw [List.flatten_cons, List.cons_append] at whole
      have lineBegins : BeginsWith char (word :: behind) :=
        ⟨rest, behind, by rw [(List.cons.inj whole).1]⟩
      obtain ⟨joined, joinedEq⟩ := lineBegins.intercalate [' ']
      exact ⟨joined, lower.map joinWords, congrArg (· :: _) joinedEq⟩

/-- The last word of all is the last one of the last line. -/
theorem EndsWith.map_joinWords
    {char : Char} {lines : List (List Word)}
    (nonempty : ∀ line ∈ lines, line ≠ [])
    (ends : EndsWith char lines.flatten) :
    EndsWith char (lines.map joinWords) := by
  obtain ⟨others, start, whole⟩ := ends
  rcases List.eq_nil_or_concat lines with rfl | ⟨upper, line, rfl⟩
  · exact absurd whole.symm (List.concat_ne_nil _ _)
  · rw [List.concat_eq_append] at nonempty whole ⊢
    obtain ⟨before, word, rfl⟩ :=
      (List.eq_nil_or_concat line).resolve_left
        (nonempty line List.mem_concat_self)
    rw [List.flatten_append, List.flatten_singleton,
      List.concat_eq_append, ← List.append_assoc] at whole
    have lineEnds : EndsWith char (before ++ [word]) :=
      ⟨before, start, by rw [(List.append_singleton_inj.mp whole).2]⟩
    obtain ⟨joined, joinedEq⟩ := lineEnds.intercalate [' ']
    refine ⟨upper.map joinWords, joined, ?_⟩
    rw [List.map_append, List.concat_eq_append]
    exact congrArg (upper.map joinWords ++ [·]) joinedEq

theorem beginsWith_wrapParagraph
    (width : Nat) {char : Char} (notSpace : char ≠ ' ')
    (chars : List Char) :
    BeginsWith char (wrapParagraph width (char :: chars)) := by
  have begins := beginsWith_words notSpace chars
  have someWords : words (char :: chars) ≠ [] := by
    obtain ⟨rest, others, found⟩ := begins
    rw [found]
    exact List.cons_ne_nil _ _
  rw [← flatten_pack width (words (char :: chars))] at begins
  rw [wrapParagraph_of_words_ne_nil width someWords]
  exact begins.map_joinWords (filled_pack width _).nonempty

theorem endsWith_wrapParagraph
    (width : Nat) {char : Char} (notSpace : char ≠ ' ')
    (chars : List Char) :
    EndsWith char (wrapParagraph width (chars ++ [char])) := by
  have ends := endsWith_words notSpace chars
  have someWords : words (chars ++ [char]) ≠ [] := by
    obtain ⟨others, start, found⟩ := ends
    rw [found]
    exact List.concat_ne_nil _ _
  rw [← flatten_pack width (words (chars ++ [char]))] at ends
  rw [wrapParagraph_of_words_ne_nil width someWords]
  exact ends.map_joinWords (filled_pack width _).nonempty

theorem BeginsWith.flatMap
    {char : Char} {parts : List (List Char)} (begins : BeginsWith char parts)
    {block : List Char → List (List Char)}
    (blockBegins : ∀ rest, BeginsWith char (block (char :: rest))) :
    BeginsWith char (parts.flatMap block) := by
  obtain ⟨rest, others, rfl⟩ := begins
  obtain ⟨behind, lower, first⟩ := blockBegins rest
  rw [List.flatMap_cons, first]
  exact ⟨behind, _, rfl⟩

theorem EndsWith.flatMap
    {char : Char} {parts : List (List Char)} (ends : EndsWith char parts)
    {block : List Char → List (List Char)}
    (blockEnds : ∀ start, EndsWith char (block (start ++ [char]))) :
    EndsWith char (parts.flatMap block) := by
  obtain ⟨others, start, rfl⟩ := ends
  obtain ⟨upper, before, last⟩ := blockEnds start
  rw [List.flatMap_append, List.flatMap_singleton, last,
    ← List.append_assoc]
  exact ⟨_, before, rfl⟩

/-- The lines of a list are the paragraphs of the joined text, each of them is
its own block, and no blank is at the ends of the text. -/
structure Settled (width : Nat) (lines : List (List Char)) : Prop where
  unbroken : ∀ line ∈ lines, '\n' ∉ line
  noReturn : ∀ line ∈ lines, dropReturn line = line
  ownBlock : ∀ line ∈ lines, wrapParagraph width line = [line]
  visibleEnds :
    lines = [] ∨
      ∃ first last, BeginsWith first lines ∧ EndsWith last lines ∧
        isBlankChar first = false ∧ isBlankChar last = false

namespace Settled

variable {width : Nat} {lines : List (List Char)}

theorem trim_joined (settled : Settled width lines) :
    trim (List.intercalate ['\n'] lines) =
      List.intercalate ['\n'] lines := by
  rcases settled.visibleEnds with
    rfl | ⟨first, last, begins, ends, firstVisible, lastVisible⟩
  · rfl
  · have headVisible :
        ∀ char ∈ (List.intercalate ['\n'] lines).head?,
          isBlankChar char = false := by
      obtain ⟨rest, joined⟩ := begins.intercalate ['\n']
      rw [joined]
      rintro char ⟨⟩
      exact firstVisible
    have endVisible :
        ∀ char ∈ (List.intercalate ['\n'] lines).getLast?,
          isBlankChar char = false := by
      obtain ⟨start, joined⟩ := ends.intercalate ['\n']
      rw [joined, List.getLast?_concat]
      rintro char ⟨⟩
      exact lastVisible
    rw [trim, trimStart_of_head_visible headVisible,
      trimEnd_of_last_visible endVisible]

theorem paragraphs_joined (settled : Settled width lines) :
    paragraphs (List.intercalate ['\n'] lines) = lines := by
  rcases settled.visibleEnds with rfl | ⟨first, last, begins, _⟩
  · rfl
  · have someText : (List.intercalate ['\n'] lines).isEmpty = false := by
      obtain ⟨rest, joined⟩ := begins.intercalate ['\n']
      rw [joined]
      rfl
    have nonempty : lines ≠ [] := by
      obtain ⟨rest, others, rfl⟩ := begins
      exact List.cons_ne_nil _ _
    rw [paragraphs, someText, if_neg Bool.false_ne_true,
      List.splitOn_intercalate '\n' settled.unbroken nonempty]
    exact (List.map_congr_left settled.noReturn).trans (List.map_id lines)

theorem flatMap_wrapParagraph (settled : Settled width lines) :
    lines.flatMap (wrapParagraph width) = lines := by
  rw [List.flatMap_congr settled.ownBlock, List.flatMap_singleton']

end Settled

theorem wrap_joined_of_settled
    {width : Nat} {lines : List String}
    (settled : Settled (max width 1) (lines.map String.toList)) :
    wrap width ("\n".intercalate lines) = lines := by
  refine map_toList_injective ?_
  have lineFeed : "\n".toList = ['\n'] := rfl
  rw [toList_wrap, String.toList_intercalate, lineFeed,
    settled.trim_joined, settled.paragraphs_joined,
    settled.flatMap_wrapParagraph]

/-! ## Wrapped lines stay as they are -/

theorem words_joinWords
    {line : List Word}
    (wordsOfLine : ∀ word ∈ line, word ≠ [] ∧ ' ' ∉ word) :
    words (joinWords line) = line := by
  have oneWord :
      ∀ word ∈ line, runs (· == ' ') word = [word] := by
    intro word member
    obtain ⟨nonempty, unspaced⟩ := wordsOfLine word member
    refine runs_eq_singleton nonempty ?_
    intro char inside
    rw [beq_eq_false_iff_ne]
    rintro rfl
    exact unspaced inside
  rw [words_eq_runs, joinWords, runs_intercalate (by decide),
    List.flatMap_congr oneWord, List.flatMap_singleton']

/-- A wrapped line is wrapped to itself. -/
theorem wrapParagraph_of_mem
    {width : Nat} {paragraph line : List Char}
    (member : line ∈ wrapParagraph width paragraph) :
    wrapParagraph width line = [line] := by
  by_cases noWords : words paragraph = []
  · rw [wrapParagraph_of_words_eq_nil width noWords,
      List.mem_singleton] at member
    rw [member]
    rfl
  · rw [wrapParagraph_of_words_ne_nil width noWords] at member
    obtain ⟨packed, packedMember, rfl⟩ := List.mem_map.mp member
    have filled := filled_pack width (words paragraph)
    have nonempty := filled.nonempty packed packedMember
    have found : words (joinWords packed) = packed :=
      words_joinWords fun _ => nonempty_and_unspaced_of_mem_pack packedMember
    have onOneLine : pack width packed = [packed] := by
      have behind :=
        pack_fits_append nonempty (filled.fits packed packedMember) []
      rw [List.append_nil] at behind
      exact behind
    have someWords : words (joinWords packed) ≠ [] := by
      rw [found]
      exact nonempty
    rw [wrapParagraph_of_words_ne_nil width someWords, found, onOneLine,
      List.map_singleton]

theorem dropReturn_of_not_mem
    {line : List Char} (noReturn : '\r' ∉ line) :
    dropReturn line = line := by
  have notLast : line.getLast? ≠ some '\r' :=
    fun atLast => noReturn (List.mem_of_getLast? atLast)
  rw [dropReturn, if_neg notLast]

theorem paragraphs_of_not_mem
    {chars : List Char} (nonempty : chars ≠ []) (noReturn : '\r' ∉ chars) :
    paragraphs chars = chars.splitOn '\n' := by
  have eachKept :
      ∀ part ∈ chars.splitOn '\n', dropReturn part = part :=
    fun part member => dropReturn_of_not_mem fun inside =>
      noReturn (mem_and_ne_of_mem_splitOn member inside).1
  rw [paragraphs, if_neg (mt List.isEmpty_iff.mp nonempty)]
  exact (List.map_congr_left eachKept).trans (List.map_id _)

theorem ne_of_visible
    {char blank : Char} (visible : isBlankChar char = false)
    (isBlank : isBlankChar blank = true) :
    char ≠ blank := by
  rintro rfl
  rw [isBlank] at visible
  exact absurd visible (by decide)

theorem mem_of_mem_trim
    {chars : List Char} {char : Char} (member : char ∈ trim chars) :
    char ∈ chars := by
  obtain ⟨front, back, whole, _⟩ := (trims_trim chars).between
  rw [whole]
  exact List.mem_append_left back (List.mem_append_right front member)

section WrappedLines

variable {width : Nat} {chars : List Char}

/-- A wrapped line holds characters of the text besides its spaces. -/
theorem mem_and_ne_of_mem_wrapped
    (noReturn : '\r' ∉ chars) {line : List Char}
    (member : line ∈ (paragraphs chars).flatMap (wrapParagraph width))
    {char : Char} (inside : char ∈ line) :
    char = ' ' ∨ char ∈ chars ∧ char ≠ '\n' := by
  obtain ⟨paragraph, paragraphMember, wrapped⟩ := List.mem_flatMap.mp member
  have nonempty : chars ≠ [] := by
    rintro rfl
    exact absurd paragraphMember List.not_mem_nil
  rw [paragraphs_of_not_mem nonempty noReturn] at paragraphMember
  exact (mem_of_mem_wrapParagraph wrapped inside).imp_right
    (mem_and_ne_of_mem_splitOn paragraphMember)

theorem beginsWith_wrapped
    {first : Char} (visible : isBlankChar first = false)
    {rest : List Char} (noReturn : '\r' ∉ first :: rest) :
    BeginsWith first
      ((paragraphs (first :: rest)).flatMap (wrapParagraph width)) := by
  rw [paragraphs_of_not_mem (List.cons_ne_nil first rest) noReturn]
  exact (beginsWith_splitOn (ne_of_visible visible (by decide)) rest).flatMap
    (beginsWith_wrapParagraph width (ne_of_visible visible (by decide)))

theorem endsWith_wrapped
    {last : Char} (visible : isBlankChar last = false)
    {start : List Char} (noReturn : '\r' ∉ start ++ [last]) :
    EndsWith last
      ((paragraphs (start ++ [last])).flatMap (wrapParagraph width)) := by
  rw [paragraphs_of_not_mem (List.concat_ne_nil last start) noReturn]
  exact (endsWith_splitOn (ne_of_visible visible (by decide)) start).flatMap
    (endsWith_wrapParagraph width (ne_of_visible visible (by decide)))

/-- A trimmed text without carriage returns has settled lines. -/
theorem settled_wrapped
    {untrimmed : List Char} (trims : Trims untrimmed chars)
    (noReturn : '\r' ∉ chars) :
    Settled width ((paragraphs chars).flatMap (wrapParagraph width)) where
  unbroken line member inside := by
    rcases mem_and_ne_of_mem_wrapped noReturn member inside with
      space | ⟨_, notLineFeed⟩
    · exact absurd space (by decide)
    · exact notLineFeed rfl
  noReturn line member := by
    refine dropReturn_of_not_mem fun inside => ?_
    rcases mem_and_ne_of_mem_wrapped noReturn member inside with
      space | ⟨ofText, _⟩
    · exact absurd space (by decide)
    · exact noReturn ofText
  ownBlock line member := by
    obtain ⟨paragraph, _, wrapped⟩ := List.mem_flatMap.mp member
    exact wrapParagraph_of_mem wrapped
  visibleEnds := by
    rcases List.eq_nil_or_concat chars with rfl | ⟨start, last, whole⟩
    · exact .inl rfl
    · rw [List.concat_eq_append] at whole
      have lastVisible : isBlankChar last = false := by
        refine trims.last_visible last ?_
        rw [whole]
        exact List.getLast?_concat
      cases chars with
      | nil => exact .inl rfl
      | cons first rest =>
          have firstVisible : isBlankChar first = false :=
            trims.head_visible first rfl
          have ends :
              EndsWith last
                ((paragraphs (first :: rest)).flatMap
                  (wrapParagraph width)) := by
            rw [whole] at noReturn ⊢
            exact endsWith_wrapped lastVisible noReturn
          exact .inr ⟨first, last, beginsWith_wrapped firstVisible noReturn,
            ends, firstVisible, lastVisible⟩

end WrappedLines

/-- Wrapping the joined lines of a wrapped text changes nothing, as long as
the text has no carriage returns. -/
theorem wrap_idempotent
    (width : Nat) {text : String} (noReturn : '\r' ∉ text.toList) :
    wrap width ("\n".intercalate (wrap width text)) = wrap width text := by
  refine wrap_joined_of_settled ?_
  rw [toList_wrap]
  exact settled_wrapped (trims_trim text.toList)
    fun inside => noReturn (mem_of_mem_trim inside)

/-- Lines with tabs at their ends, an empty one and one that is too long stay
as they are. -/
theorem wrap_idempotent_tabs :
    '\r' ∉ "\t one  two\n   \n\tthree/four\t a\tb c \t".toList ∧
      wrap 5 "\t one  two\n   \n\tthree/four\t a\tb c \t" =
        ["one", "two", "", "\tthree/four\t", "a\tb c"] ∧
      wrap 5 "one\ntwo\n\n\tthree/four\t\na\tb c" =
        ["one", "two", "", "\tthree/four\t", "a\tb c"] := by
  have noReturn :
      '\r' ∉ "\t one  two\n   \n\tthree/four\t a\tb c \t".toList := by
    decide
  have wrapped :
      wrap 5 "\t one  two\n   \n\tthree/four\t a\tb c \t" =
        ["one", "two", "", "\tthree/four\t", "a\tb c"] := by
    decide
  have again := wrap_idempotent 5 noReturn
  rw [wrapped] at again
  exact ⟨noReturn, wrapped, again⟩

/-- A carriage return at the end of a line goes with the line feed behind it
when the lines are joined. -/
example :
    wrap 5 "a\r\r\nb" = ["a\r", "b"] ∧ wrap 5 "a\r\nb" = ["a", "b"] := by
  decide

end ManagedBinding.Text
