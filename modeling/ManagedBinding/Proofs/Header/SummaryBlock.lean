import ManagedBinding.Proofs.Header.CommentLines
import ManagedBinding.Proofs.Header.HookedRun
import ManagedBinding.Proofs.Text.VisibleWords

/-!
# Summary blocks

A comment that is not blank becomes a block: a line that opens the summary,
one line for each line of the wrapped comment, and a line that closes it.

A comment is wrapped to the columns behind the indentation and the comment
mark, and its lines then lose the blanks at their ends.  The two can only make
a line shorter, so it stays within its columns unless it shows a single word,
and no word between blanks is lost.
-/

namespace ManagedBinding

namespace Listing

/-- Lines behind the spaces of their depth, every line ended. -/
def block (depth : Nat) (lines : List (List Char)) : String :=
  String.ofList
    (Text.endLines (lines.map (List.replicate (4 * depth) ' ' ++ ·)))

theorem text_eq_block
    (depth : Nat) {lines : List String}
    (unbroken : ∀ line ∈ lines, '\n' ∉ line.toList)
    (nonempty : ∀ line ∈ lines, line.toList ≠ []) :
    text (lines.map fun line => ⟨depth, line⟩) =
      block depth (lines.map String.toList) := by
  have sameLines :
      (lines.map fun line => (⟨depth, line⟩ : Item)).flatMap Item.lines =
        (lines.map String.toList).map
          (List.replicate (4 * depth) ' ' ++ ·) := by
    rw [List.flatMap_map, List.map_map, List.map_eq_flatMap]
    refine List.flatMap_congr fun line member => ?_
    have filled : line.toList.isEmpty = false := by
      rw [List.isEmpty_eq_false_iff]
      exact nonempty line member
    rw [Item.lines_of_unbroken depth (unbroken line member), indentLine,
      filled]
    rfl
  rw [text, block, sameLines]

end Listing

theorem Rendering.emit_eq_append
    {η : Type} (rendering : Rendering η) (items : List Listing.Item) :
    rendering.emit items [] = rendering.append (Listing.text items) := by
  rw [emit, append, List.append_nil]

namespace Header

open Text (isBlankChar visibleWords)

/-- A line of a comment without its indentation: one line behind the comment
mark, with no blank at its end. -/
structure CommentText (shown : List Char) : Prop where
  marked : ['/', '/', '/'] <+: shown
  unbroken : '\n' ∉ shown
  last_visible : ∀ char ∈ shown.getLast?, isBlankChar char = false

/-- A wrapped line is shown behind the comment mark, up to the blanks at its
end.  With its indentation it has at most 80 columns, or there is nothing or a
single word behind the mark. -/
structure ShowsLine (depth : Nat) (line : String) (shown : List Char) :
    Prop where
  text : CommentText shown
  shortened :
    ∃ blanks : List Char,
      ['/', '/', '/', ' '] ++ line.toList = shown ++ blanks ∧
        ∀ char ∈ blanks, isBlankChar char = true
  columns :
    4 * depth + shown.length ≤ 80 ∨ shown = ['/', '/', '/'] ∨
      ∃ word : List Char, word ≠ [] ∧ ' ' ∉ word ∧
        shown = ['/', '/', '/', ' '] ++ word

/-- The lines between the opening and the closing of a summary: one for each
wrapped line, and together the words of the comment. -/
structure SummaryBody
    (depth : Nat) (comment : String) (body : List (List Char)) : Prop where
  lines :
    List.Forall₂ (ShowsLine depth) (Text.wrap (80 - 4 * depth - 4) comment)
      body
  words :
    body.flatMap (fun shown => visibleWords (shown.drop 3)) =
      visibleWords comment.toList

theorem ne_nil_of_marked
    {shown : List Char} (marked : ['/', '/', '/'] <+: shown) :
    shown ≠ [] := by
  intro empty
  rw [empty] at marked
  exact absurd (List.prefix_nil.mp marked) (List.cons_ne_nil _ _)

theorem commentText_commentLine
    {line : String} (unbroken : '\n' ∉ line.toList) :
    CommentText (Rendering.commentLine line).toList := by
  refine ⟨?_, commentLine_unbroken unbroken, ?_⟩
  · rw [toList_commentLine]
    exact List.prefix_append ['/', '/', '/'] _
  · rw [Rendering.commentLine, String.toList_ofList]
    exact Text.last_trimEnd _

/-- Behind the mark, a single word may lose blanks at its end, and all of it
may be blank. -/
theorem commentLine_of_unspaced
    {line : String} (unspaced : ' ' ∉ line.toList) :
    (Rendering.commentLine line).toList = ['/', '/', '/'] ∨
      ∃ word : List Char, word ≠ [] ∧ ' ' ∉ word ∧
        (Rendering.commentLine line).toList =
          ['/', '/', '/', ' '] ++ word := by
  have lastVisible := Text.last_trimEnd (' ' :: line.toList)
  obtain ⟨blanks, whole, _⟩ :=
    Text.exists_trimEnd_append (' ' :: line.toList)
  rw [toList_commentLine]
  cases shown : Text.trimEnd (' ' :: line.toList) with
  | nil =>
      exact .inl rfl
  | cons char word =>
      rw [shown, List.cons_append, List.cons.injEq] at whole
      rw [← whole.1]
      refine .inr ⟨word, ?_, ?_, rfl⟩
      · intro noWord
        rw [shown, noWord, ← whole.1] at lastVisible
        exact absurd (lastVisible ' ' rfl) (by decide)
      · intro space
        rw [whole.2] at unspaced
        exact unspaced (List.mem_append_left blanks space)

theorem length_commentLine_le (line : String) :
    (Rendering.commentLine line).toList.length ≤ line.toList.length + 4 := by
  obtain ⟨blanks, whole, _⟩ :=
    Text.exists_trimEnd_append (' ' :: line.toList)
  have lengths := congrArg List.length whole
  rw [List.length_cons, List.length_append] at lengths
  rw [toList_commentLine]
  simp only [List.length_cons]
  omega

theorem showsLine_commentLine
    {depth : Nat} {comment line : String}
    (member : line ∈ Text.wrap (80 - 4 * depth - 4) comment) :
    ShowsLine depth line (Rendering.commentLine line).toList := by
  have unbroken := Text.not_mem_of_mem_wrap member
  have noText (empty : line.toList = []) :
      (Rendering.commentLine line).toList = ['/', '/', '/'] := by
    rw [toList_commentLine, empty]
    decide
  refine ⟨commentText_commentLine unbroken, ?_, ?_⟩
  · rw [Rendering.commentLine, String.toList_ofList, String.toList_append]
    exact Text.exists_trimEnd_append _
  · rcases Text.length_le_of_mem_wrap member with
      empty | ⟨_, unspaced⟩ | short
    · exact .inr (.inl (noText empty))
    · exact .inr (commentLine_of_unspaced unspaced)
    · by_cases empty : line.toList = []
      · exact .inr (.inl (noText empty))
      · have positive := List.length_pos_iff.mpr empty
        have shownLength := length_commentLine_le line
        left
        omega

theorem visibleWords_commentLine (line : String) :
    visibleWords ((Rendering.commentLine line).toList.drop 3) =
      visibleWords line.toList := by
  rw [toList_commentLine]
  calc
    visibleWords (Text.trimEnd (' ' :: line.toList)) =
        visibleWords ([' '] ++ line.toList) :=
      Text.visibleWords_trimEnd (' ' :: line.toList)
    _ = visibleWords line.toList :=
      Text.runs_of_all_append line.toList
        (List.forall_mem_singleton.mpr (by decide))

/-- The lines of a summary between its opening and its closing. -/
def summaryBody (depth : Nat) (comment : String) : List (List Char) :=
  (Text.wrap (80 - 4 * depth - 4) comment).map fun line =>
    (Rendering.commentLine line).toList

theorem summaryBody_spec (depth : Nat) (comment : String) :
    SummaryBody depth comment (summaryBody depth comment) := by
  constructor
  · rw [summaryBody, List.forall₂_map_right_iff, List.forall₂_same]
    exact fun line member => showsLine_commentLine member
  · rw [summaryBody, List.flatMap_map]
    simp only [visibleWords_commentLine]
    rw [← List.flatMap_map]
    exact Text.flatMap_visibleWords_wrap _ comment

/-- The opening line, the lines of the body and the closing line. -/
def summaryLines (body : List (List Char)) : List (List Char) :=
  ["/// <summary>".toList] ++ body ++ ["/// </summary>".toList]

theorem commentText_of_mem_summaryLines
    {depth : Nat} {comment : String} {shown : List Char}
    (member : shown ∈ summaryLines (summaryBody depth comment)) :
    CommentText shown := by
  rw [summaryLines, List.mem_append, List.mem_append, List.mem_singleton,
    List.mem_singleton] at member
  rcases member with (opening | inBody) | closing
  · rw [opening]
    refine ⟨by decide, by decide, ?_⟩
    intro char atLast
    rw [← Option.some.inj atLast]
    decide
  · obtain ⟨line, wrapped, rfl⟩ := List.mem_map.mp inBody
    exact commentText_commentLine (Text.not_mem_of_mem_wrap wrapped)
  · rw [closing]
    refine ⟨by decide, by decide, ?_⟩
    intro char atLast
    rw [← Option.some.inj atLast]
    decide

theorem text_summaryItems
    (depth : Nat) {comment : String}
    (visible : Text.isBlank comment = false) :
    Listing.text (summaryItems depth (some comment)) =
      Listing.block depth (summaryLines (summaryBody depth comment)) := by
  let lines :=
    ["/// <summary>"] ++
      (Text.wrap (80 - 4 * depth - 4) comment).map Rendering.commentLine ++
      ["/// </summary>"]
  have sameLines :
      lines.map String.toList =
        summaryLines (summaryBody depth comment) := by
    rw [List.map_append, List.map_append, List.map_map]
    rfl
  have textOf (line : String) (member : line ∈ lines) :
      CommentText line.toList := by
    have inBlock := List.mem_map_of_mem (f := String.toList) member
    rw [sameLines] at inBlock
    exact commentText_of_mem_summaryLines inBlock
  rw [summaryItems_some, visible, ← sameLines]
  exact Listing.text_eq_block depth
    (fun line member => (textOf line member).unbroken)
    (fun line member => ne_nil_of_marked (textOf line member).marked)

/-- A blank comment writes nothing.  Every other comment appends a block of
comment lines at the depth of the rendering, with the wrapped comment between
its first line and its last one, and changes nothing else. -/
theorem summary_is_wrapped_block
    {η : Type} (rendering : Rendering η) {depth : Nat}
    (start : rendering.StartsLine depth) (comment : String) :
    ((∀ char ∈ comment.toList, isBlankChar char = true) →
        rendering.writeSummary comment = rendering) ∧
      ((∃ char ∈ comment.toList, isBlankChar char = false) →
        ∃ body : List (List Char),
          rendering.writeSummary comment =
              rendering.append
                (Listing.block depth (summaryLines body)) ∧
            (∀ shown ∈ summaryLines body, CommentText shown) ∧
            SummaryBody depth comment body) := by
  constructor
  · intro blank
    have isBlank : Text.isBlank comment = true :=
      List.all_eq_true.mpr blank
    rw [Rendering.writeSummary, if_pos isBlank]
  · rintro ⟨char, member, visibleChar⟩
    have visible : Text.isBlank comment = false := by
      rw [Text.isBlank, List.all_eq_false]
      exact ⟨char, member, ne_true_of_eq_false visibleChar⟩
    refine ⟨summaryBody depth comment, ?_, ?_,
      summaryBody_spec depth comment⟩
    · calc
        rendering.writeSummary comment =
            rendering.emit (summaryItems depth (some comment)) [] :=
          emits_writeSummary comment rendering start
        _ = rendering.append
              (Listing.block depth
                (summaryLines (summaryBody depth comment))) := by
          rw [Rendering.emit_eq_append, text_summaryItems depth visible]
    · exact fun shown inBlock => commentText_of_mem_summaryLines inBlock

/-- A blank paragraph is shown by the comment mark alone. -/
example :
    ((Rendering.start (none : Option LineHook)).writeSummary
      "\tone \r\n\u3000\ntwo\u2003").output.text =
        "/// <summary>\n/// one\n///\n/// two\n/// </summary>\n" := by
  decide

/-- Two paragraphs with a paragraph of blanks between them, one level deep. -/
theorem summary_of_two_paragraphs :
    let rendering := (Rendering.start (none : Option LineHook)).pushIndent
    let comment := "\tTicks since the start.\u3000\r\n \u2003\n  Never\tnegative. "
    (rendering.StartsLine 1 ∧
        ∃ char ∈ comment.toList, isBlankChar char = false) ∧
      ∃ body : List (List Char),
        rendering.writeSummary comment =
            rendering.append (Listing.block 1 (summaryLines body)) ∧
          (∀ shown ∈ summaryLines body, CommentText shown) ∧
          SummaryBody 1 comment body := by
  intro rendering comment
  have start : rendering.StartsLine 1 := ⟨rfl, rfl, rfl⟩
  have visible : ∃ char ∈ comment.toList, isBlankChar char = false :=
    ⟨'T', by decide, by decide⟩
  exact ⟨⟨start, visible⟩,
    (summary_is_wrapped_block rendering start comment).2 visible⟩

end Header

end ManagedBinding
