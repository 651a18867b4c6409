import ManagedBinding.Proofs.Header.SummaryBlock
import ManagedBinding.Proofs.Header.Visibility

/-!
# Inline comments

The comment of a field is written as it is, between an opening and a closing
on one line.  Nothing looks at its line feeds, so a comment with line feeds
comes to several lines, and only the first of them is behind the comment mark
for sure.

The other lines stand in the header like lines of code.  The code lines of a
header are those of the header without field comments, merged with the lines
that have strayed from a comment; the two headers have the same code exactly
if no line has strayed.
-/

namespace ManagedBinding

/-- The third list has the members of the first two, each in their order. -/
inductive Merges {α : Type} : List α → List α → List α → Prop
  | nil : Merges [] [] []
  | left {added kept whole : List α} (member : α) :
      Merges added kept whole →
      Merges (member :: added) kept (member :: whole)
  | right {added kept whole : List α} (member : α) :
      Merges added kept whole →
      Merges added (member :: kept) (member :: whole)

namespace Merges

variable {α β : Type}

theorem keep : ∀ members : List α, Merges [] members members
  | [] => nil
  | member :: rest => (keep rest).right member

theorem append
    {added kept whole laterAdded laterKept later : List α}
    (first : Merges added kept whole)
    (second : Merges laterAdded laterKept later) :
    Merges (added ++ laterAdded) (kept ++ laterKept) (whole ++ later) := by
  induction first with
  | nil => exact second
  | left member _ inductionHypothesis => exact inductionHypothesis.left member
  | right member _ inductionHypothesis =>
      exact inductionHypothesis.right member

theorem put (added kept : List α) : Merges added kept (added ++ kept) := by
  induction added with
  | nil => exact keep kept
  | cons member rest inductionHypothesis =>
      exact inductionHypothesis.left member

/-- Members in front of a merged list and behind it are kept. -/
theorem between
    {added kept whole : List α} (front behind : List α)
    (merges : Merges added kept whole) :
    Merges added (front ++ kept ++ behind) (front ++ whole ++ behind) := by
  have all := ((keep front).append merges).append (keep behind)
  rw [List.nil_append, List.append_nil] at all
  exact all

theorem flatMap
    {added kept whole : β → List α}
    (each : ∀ member, Merges (added member) (kept member) (whole member))
    (members : List β) :
    Merges (members.flatMap added) (members.flatMap kept)
      (members.flatMap whole) := by
  induction members with
  | nil => exact nil
  | cons member rest inductionHypothesis =>
      exact (each member).append inductionHypothesis

theorem length_eq {added kept whole : List α}
    (merges : Merges added kept whole) :
    whole.length = added.length + kept.length := by
  induction merges with
  | nil => rfl
  | left member _ inductionHypothesis =>
      rw [List.length_cons, List.length_cons]
      omega
  | right member _ inductionHypothesis =>
      rw [List.length_cons, List.length_cons]
      omega

theorem eq_of_nil {kept whole : List α} (merges : Merges [] kept whole) :
    kept = whole := by
  induction kept generalizing whole with
  | nil =>
      cases merges with
      | nil => rfl
  | cons member rest inductionHypothesis =>
      cases merges with
      | right _ later => rw [inductionHypothesis later]

/-- Nothing but what is added changes a list. -/
theorem kept_eq_iff {added kept whole : List α}
    (merges : Merges added kept whole) :
    kept = whole ↔ added = [] := by
  constructor
  · intro same
    have lengths := merges.length_eq
    rw [same] at lengths
    exact List.length_eq_zero_iff.mp (by omega)
  · intro nothing
    rw [nothing] at merges
    exact merges.eq_of_nil

end Merges

namespace Listing

theorem codeLines_unbroken (items : List Item) :
    ∀ line ∈ codeLines items, '\n' ∉ line := by
  intro line member
  obtain ⟨item, _, ofItem⟩ :=
    List.mem_flatMap.mp (List.mem_of_mem_filter member)
  exact item.lines_unbroken line ofItem

theorem withoutCommentLines_text_inj {left right : List Item} :
    Text.withoutCommentLines (text left) =
        Text.withoutCommentLines (text right) ↔
      codeLines left = codeLines right := by
  rw [withoutCommentLines_text, withoutCommentLines_text, String.ofList_inj,
    Text.endLines_inj (codeLines_unbroken left) (codeLines_unbroken right)]

end Listing

def Field.withoutComment (field : Field) : Field :=
  { field with declaration := { field.declaration with comment := none } }

def Class.withoutFieldComments (owner : Class) : Class :=
  { owner with fields := owner.fields.map Field.withoutComment }

/-- A unit without the comments of the fields of its classes. -/
def CompilationUnit.withoutFieldComments (unit : CompilationUnit) :
    CompilationUnit :=
  { unit with classes := unit.classes.map Class.withoutFieldComments }

theorem Class.eligibleFields_withoutFieldComments (owner : Class) :
    owner.withoutFieldComments.eligibleFields =
      owner.eligibleFields.map Field.withoutComment := by
  rw [eligibleFields, withoutFieldComments, List.filter_map]
  rfl

namespace Header

open Listing (Item codeLines)

/-- The line feeds of a comment cut it into lines, and all but the first one
are behind the comment mark. -/
def MarkedBehindFirst (comment : String) : Prop :=
  ∀ line ∈ (comment.toList.splitOn '\n').tail,
    Text.startsWithMark line = true

instance (comment : String) : Decidable (MarkedBehindFirst comment) :=
  inferInstanceAs (Decidable (∀ line ∈ _, _))

/-- The text that is written for a comment on one line. -/
def inlineText (comment : String) : String :=
  "/// <summary> " ++ comment ++ " </summary>"

theorem toList_inlineText (comment : String) :
    (inlineText comment).toList =
      "/// <summary> ".toList ++ comment.toList ++ " </summary>".toList := by
  change ("/// <summary> " ++ comment ++ " </summary>").toList = _
  rw [String.toList_append, String.toList_append]

theorem inlineText_unbroken_iff (comment : String) :
    '\n' ∉ (inlineText comment).toList ↔ '\n' ∉ comment.toList := by
  have openingUnbroken : '\n' ∉ "/// <summary> ".toList := by decide
  have closingUnbroken : '\n' ∉ " </summary>".toList := by decide
  rw [toList_inlineText, List.mem_append, List.mem_append]
  tauto

theorem startsWithMark_opening_append (line : List Char) :
    Text.startsWithMark ("/// <summary> ".toList ++ line) = true :=
  rfl

theorem startsWithMark_append_closing (line : List Char) :
    Text.startsWithMark (line ++ " </summary>".toList) =
      Text.startsWithMark line := by
  refine Text.startsWithMark_append line ?_ rfl
  intro char atHead
  rw [← Option.some.inj atHead]
  decide

/-- The opening puts the first line behind the comment mark, and the closing
leaves the last one as it is. -/
theorem codeLines_inlineText_eq_nil_iff (depth : Nat) (comment : String) :
    codeLines [⟨depth, inlineText comment⟩] = [] ↔
      MarkedBehindFirst comment := by
  have openingUnbroken : '\n' ∉ "/// <summary> ".toList := by decide
  have closingUnbroken : '\n' ∉ " </summary>".toList := by decide
  rw [Listing.codeLines_singleton_eq_nil_iff, toList_inlineText,
    MarkedBehindFirst]
  obtain ⟨first, rest, parts⟩ :=
    List.exists_cons_of_ne_nil
      (List.splitOn_ne_nil '\n' comment.toList)
  rcases List.eq_nil_or_concat' rest with single | ⟨inner, last, several⟩
  · rw [single] at parts
    have unbroken := Text.not_mem_of_splitOn_eq_singleton parts
    have shownUnbroken := (inlineText_unbroken_iff comment).mpr unbroken
    rw [toList_inlineText] at shownUnbroken
    rw [List.splitOn_eq_singleton shownUnbroken,
      List.splitOn_eq_singleton unbroken, List.append_assoc]
    refine iff_of_true ?_ ?_
    · intro line member
      rw [List.mem_singleton.mp member]
      exact startsWithMark_opening_append _
    · exact fun line member => absurd member List.not_mem_nil
  · rw [several] at parts
    rw [Text.splitOn_between openingUnbroken closingUnbroken parts, parts,
      List.tail_cons]
    simp only [List.forall_mem_cons, List.forall_mem_append,
      startsWithMark_opening_append, startsWithMark_append_closing,
      true_and, List.mem_singleton, forall_eq]

/-! ## One line or several -/

/-- The text is one ended line, with the comment mark behind the indentation
of its depth. -/
def OneCommentLine (depth : Nat) (text : String) : Prop :=
  ∃ shown : List Char,
    ['/', '/', '/'] <+: shown ∧ '\n' ∉ shown ∧
      text = Listing.block depth [shown]

theorem OneCommentLine.ne_empty {depth : Nat} {text : String}
    (oneLine : OneCommentLine depth text) :
    text ≠ "" := by
  obtain ⟨shown, _, _, whole⟩ := oneLine
  intro empty
  have chars := congrArg String.toList (whole.symm.trans empty)
  rw [Listing.block, String.toList_ofList, List.map_singleton,
    Text.endLines_cons] at chars
  exact absurd chars (by simp)

theorem oneCommentLine_inlineText_iff (depth : Nat) (comment : String) :
    OneCommentLine depth (Listing.text [⟨depth, inlineText comment⟩]) ↔
      '\n' ∉ comment.toList := by
  rw [← inlineText_unbroken_iff]
  let item : Item := ⟨depth, inlineText comment⟩
  constructor
  · rintro ⟨shown, _, shownUnbroken, sameText⟩
    have shownIndented :
        ∀ line ∈ [List.replicate (4 * depth) ' ' ++ shown],
          '\n' ∉ line :=
      List.forall_mem_singleton.mpr
        (Listing.spaces_append_unbroken depth shownUnbroken)
    have sameLines :
        item.lines = [List.replicate (4 * depth) ' ' ++ shown] := by
      rw [Listing.text, Listing.block, String.ofList_inj,
        List.flatMap_singleton] at sameText
      exact (Text.endLines_inj item.lines_unbroken shownIndented).mp sameText
    obtain ⟨part, parts, _⟩ := List.map_eq_singleton_iff.mp sameLines
    exact Text.not_mem_of_splitOn_eq_singleton parts
  · intro unbroken
    have marked : ['/', '/', '/'] <+: (inlineText comment).toList := by
      rw [toList_inlineText, List.append_assoc]
      exact List.prefix_append ['/', '/', '/'] _
    refine ⟨(inlineText comment).toList, marked, unbroken, ?_⟩
    have eachUnbroken :
        ∀ line ∈ [inlineText comment], '\n' ∉ line.toList :=
      List.forall_mem_singleton.mpr unbroken
    have eachNonempty : ∀ line ∈ [inlineText comment], line.toList ≠ [] :=
      List.forall_mem_singleton.mpr (ne_nil_of_marked marked)
    have asBlock := Listing.text_eq_block depth eachUnbroken eachNonempty
    rw [List.map_singleton, List.map_singleton] at asBlock
    exact asBlock

/-- Every line feed of a comment starts one more line. -/
theorem count_text_inlineText (depth : Nat) (comment : String) :
    (Listing.text [⟨depth, inlineText comment⟩]).toList.count '\n' =
      comment.toList.count '\n' + 1 := by
  let item : Item := ⟨depth, inlineText comment⟩
  have openingCount : "/// <summary> ".toList.count '\n' = 0 := by decide
  have closingCount : " </summary>".toList.count '\n' = 0 := by decide
  calc
    (Listing.text [item]).toList.count '\n' = item.lines.length := by
      rw [Listing.text, String.toList_ofList, List.flatMap_singleton,
        Text.count_endLines item.lines_unbroken]
    _ = (inlineText comment).toList.count '\n' + 1 := by
      rw [Listing.Item.lines, List.length_map, Text.length_splitOn]
    _ = comment.toList.count '\n' + 1 := by
      rw [toList_inlineText, List.count_append, List.count_append,
        openingCount, closingCount, Nat.zero_add, Nat.add_zero]

/-- What a comment on one line appends. -/
theorem inlineSummary_appends
    {η : Type} {rendering : Rendering η} {depth : Nat}
    (start : rendering.StartsLine depth) (comment : String) :
    ∃ written : String,
      rendering.writeInlineSummary comment = rendering.append written ∧
        (written = "" ↔ Text.isBlank comment = true) ∧
        (Text.isBlank comment = false →
          written.toList.count '\n' = comment.toList.count '\n' + 1) ∧
        (OneCommentLine depth written ↔
          Text.isBlank comment = false ∧ '\n' ∉ comment.toList) := by
  by_cases blank : Text.isBlank comment = true
  · refine ⟨"", ?_, iff_of_true rfl blank, ?_, iff_of_false ?_ ?_⟩
    · rw [Rendering.writeInlineSummary, if_pos blank, Rendering.append,
        String.append_empty]
    · intro visible
      exact absurd (blank.symm.trans visible) (by decide)
    · exact fun oneLine => oneLine.ne_empty rfl
    · rw [blank]
      exact fun visible => absurd visible.1 (by decide)
  · have written :
        rendering.writeInlineSummary comment =
          rendering.append (Listing.text [⟨depth, inlineText comment⟩]) := by
      rw [Rendering.writeInlineSummary, if_neg blank,
        ← Rendering.emit_eq_append]
      exact Rendering.emits_writeLine depth (inlineText comment) rendering
        start
    refine ⟨_, written, iff_of_false ?_ blank,
      fun _ => count_text_inlineText depth comment, ?_⟩
    · intro empty
      have noItems :=
        (Listing.size_eq_zero_iff _).mp (congrArg String.length empty)
      exact absurd noItems (List.cons_ne_nil _ _)
    · rw [Bool.not_eq_true] at blank
      rw [oneCommentLine_inlineText_iff, blank]
      tauto

/-! ## Lines that stray from comments -/

theorem emittedClasses_withoutFieldComments (unit : CompilationUnit) :
    emittedClasses unit.withoutFieldComments =
      (emittedClasses unit).map Class.withoutFieldComments := by
  rw [emittedClasses, CompilationUnit.withoutFieldComments, List.filter_map]
  rfl

/-- The lines of the comment of a field that are no comment lines. -/
def strayLines (depth : Nat) (field : Field) : List (List Char) :=
  codeLines (inlineSummaryItems depth field.declaration.comment)

theorem strayLines_eq_nil_iff (depth : Nat) (field : Field) :
    strayLines depth field = [] ↔
      ∀ comment ∈ field.declaration.comment,
        Text.isBlank comment = true ∨ MarkedBehindFirst comment := by
  rw [strayLines]
  cases field.declaration.comment with
  | none =>
      exact iff_of_true rfl fun _ member =>
        absurd member (Option.not_mem_none _)
  | some comment =>
      rw [inlineSummaryItems_some]
      by_cases blank : Text.isBlank comment = true
      · rw [if_pos blank]
        simp [codeLines, blank]
      · have onlyThis :
            (∀ other ∈ some comment,
                Text.isBlank other = true ∨ MarkedBehindFirst other) ↔
              MarkedBehindFirst comment := by
          simp [blank]
        rw [if_neg blank, onlyThis]
        exact codeLines_inlineText_eq_nil_iff depth comment

section Merging

variable (printer : TypePrinter)

theorem merges_fieldItems (depth : Nat) (field : Field) :
    Merges (strayLines depth field)
      (codeLines (fieldItems printer depth field.withoutComment))
      (codeLines (fieldItems printer depth field)) := by
  have cut :
      codeLines (fieldItems printer depth field) =
        strayLines depth field ++
          codeLines (fieldItems printer depth field.withoutComment) := by
    rw [fieldItems, Listing.codeLines_append]
    rfl
  rw [cut]
  exact .put _ _

/-- The stray lines of the fields of a class that are declared. -/
def classStrayLines (depth : Nat) (owner : Class) : List (List Char) :=
  owner.eligibleFields.flatMap (strayLines depth)

theorem merges_memberItems (depth : Nat) (owner : Class) :
    Merges (classStrayLines depth owner)
      (codeLines (memberItems printer depth owner.withoutFieldComments))
      (codeLines (memberItems printer depth owner)) := by
  have fields :
      Merges (classStrayLines depth owner)
        (codeLines (owner.withoutFieldComments.eligibleFields.flatMap
          (fieldItems printer depth)))
        (codeLines (owner.eligibleFields.flatMap
          (fieldItems printer depth))) := by
    rw [Class.eligibleFields_withoutFieldComments, List.flatMap_map,
      Listing.codeLines_flatMap, Listing.codeLines_flatMap]
    exact .flatMap (merges_fieldItems printer depth) owner.eligibleFields
  rw [memberItems_eq, memberItems_eq]
  simp only [Listing.codeLines_append]
  exact fields.between _ _

theorem merges_classItems (depth : Nat) (owner : Class) :
    Merges (classStrayLines (depth + 1) owner)
      (codeLines (classItems printer depth owner.withoutFieldComments))
      (codeLines (classItems printer depth owner)) := by
  rw [classItems, classItems]
  simp only [Listing.codeLines_append]
  exact (merges_memberItems printer (depth + 1) owner).between _ _

variable (unit : CompilationUnit) (options : Options)

/-- The stray lines of the classes that are declared. -/
def unitStrayLines : List (List Char) :=
  (emittedClasses unit).flatMap (classStrayLines (classDepth options + 1))

/-- The code lines of a header are those of the header without field comments
and the stray lines. -/
theorem merges_headerItems :
    Merges (unitStrayLines unit options)
      (codeLines (headerItems unit.withoutFieldComments options printer))
      (codeLines (headerItems unit options printer)) := by
  have classes :
      Merges (unitStrayLines unit options)
        (codeLines ((emittedClasses unit.withoutFieldComments).flatMap
          (classItems printer (classDepth options))))
        (codeLines ((emittedClasses unit).flatMap
          (classItems printer (classDepth options)))) := by
    rw [emittedClasses_withoutFieldComments, List.flatMap_map,
      Listing.codeLines_flatMap, Listing.codeLines_flatMap]
    exact .flatMap (merges_classItems printer (classDepth options))
      (emittedClasses unit)
  rw [headerItems, headerItems, namespaceItems_eq, namespaceItems_eq]
  simp only [Listing.codeLines_append]
  exact (Merges.keep (codeLines (topItems unit))).append
    (classes.between _ _)

end Merging

/-- Without field comments a header has the same code exactly if every line of
these comments is shown behind the comment mark. -/
theorem withoutCommentLines_withoutFieldComments_iff
    (unit : CompilationUnit) (options : Options) (printer : TypePrinter) :
    Text.withoutCommentLines
          (Listing.text
            (headerItems unit.withoutFieldComments options printer)) =
        Text.withoutCommentLines
          (Listing.text (headerItems unit options printer)) ↔
      ∀ owner ∈ emittedClasses unit, ∀ field ∈ owner.eligibleFields,
        ∀ comment ∈ field.declaration.comment,
          Text.isBlank comment = true ∨ MarkedBehindFirst comment := by
  rw [Listing.withoutCommentLines_text_inj,
    (merges_headerItems printer unit options).kept_eq_iff, unitStrayLines]
  simp only [List.flatMap_eq_nil_iff, classStrayLines,
    strayLines_eq_nil_iff]

/-- A blank comment writes nothing.  Any other comment writes one line more than
it has line feeds, which is one comment line exactly if it has none.  Without a
hook, the field comments of a unit add nothing but comment lines to its header
exactly if each of them is blank or has the comment mark at the start of all
its lines but the first. -/
theorem inline_comment_stays_comment_iff
    {η : Type} [Hook η] (rendering : Rendering η) {depth : Nat}
    (start : rendering.StartsLine depth) (comment : String)
    (unit : CompilationUnit) (options : Options) (printer : TypePrinter)
    (hooks : HookTable η) (unhooked : hooks.get? unit.fileName = none) :
    let body := fun rendered : CompilationUnit =>
      (renderUnit layout rendered options printer hooks).1.body
    (∃ written : String,
        rendering.writeInlineSummary comment = rendering.append written ∧
          (written = "" ↔ Text.isBlank comment = true) ∧
          (Text.isBlank comment = false →
            written.toList.count '\n' = comment.toList.count '\n' + 1) ∧
          (OneCommentLine depth written ↔
            Text.isBlank comment = false ∧ '\n' ∉ comment.toList)) ∧
      (Text.withoutCommentLines (body unit.withoutFieldComments) =
          Text.withoutCommentLines (body unit) ↔
        ∀ owner ∈ unit.classes, owner.declaration.ignored = false →
          ∀ field ∈ owner.fields, field.isExcluded = false →
            ∀ comment ∈ field.declaration.comment,
              Text.isBlank comment = true ∨ MarkedBehindFirst comment) := by
  intro body
  constructor
  · exact inlineSummary_appends start comment
  · have whole :=
      renderUnit_body_eq_listing unit options printer hooks unhooked
    have plain :=
      renderUnit_body_eq_listing unit.withoutFieldComments options printer
        hooks unhooked
    change
      Text.withoutCommentLines
          (renderUnit layout unit.withoutFieldComments options printer
            hooks).1.body =
        Text.withoutCommentLines
          (renderUnit layout unit options printer hooks).1.body ↔ _
    rw [whole, plain, withoutCommentLines_withoutFieldComments_iff]
    simp only [emittedClasses, Class.eligibleFields, List.mem_filter,
      Bool.not_eq_true', and_imp]

/-- A class with one field, which has a comment. -/
def commentedFieldUnit (comment : String) : CompilationUnit :=
  (CompilationUnit.ofFile "a.h").withClass <|
    (Class.named "C").withField <|
      (Field.named "width" (.builtin .int)).withComment comment

/-- A line feed is harmless if the comment goes on with a comment mark. -/
theorem inline_comment_with_marked_line :
    let rendering := (Rendering.start (none : Option LineHook)).pushIndent
    let comment := "Width.\n  /// In pixels."
    let unit := commentedFieldUnit comment
    let body := fun rendered : CompilationUnit =>
      (renderUnit layout rendered .standard .native otherUnitHooks).1.body
    (rendering.StartsLine 1 ∧
        otherUnitHooks.get? unit.fileName = none) ∧
      (∃ written : String,
        rendering.writeInlineSummary comment = rendering.append written ∧
          written ≠ "" ∧ written.toList.count '\n' = 2 ∧
          ¬ OneCommentLine 1 written) ∧
      Text.withoutCommentLines (body unit.withoutFieldComments) =
        Text.withoutCommentLines (body unit) := by
  intro rendering comment unit body
  have start : rendering.StartsLine 1 := ⟨rfl, rfl, rfl⟩
  have stays :=
    inline_comment_stays_comment_iff rendering start comment unit .standard
      .native otherUnitHooks rfl
  obtain ⟨written, appends, empty_iff, count_eq, oneLine_iff⟩ := stays.1
  refine ⟨⟨start, rfl⟩, ⟨written, appends, ?_, ?_, ?_⟩, stays.2.mpr ?_⟩
  · exact mt empty_iff.mp (by decide)
  · rw [count_eq (by decide)]
    decide
  · exact mt oneLine_iff.mp (by decide)
  · decide

/-- A comment with a line feed puts a line into the header that is neither a
comment nor a declaration. -/
theorem field_comment_adds_code_line :
    let rendering := Rendering.start (none : Option LineHook)
    let comment := "Width.\nvoid Grow();"
    let unit := commentedFieldUnit comment
    let body := fun rendered : CompilationUnit =>
      (renderUnit layout rendered .standard .native otherUnitHooks).1.body
    (rendering.StartsLine 0 ∧
        otherUnitHooks.get? unit.fileName = none) ∧
      (rendering.writeInlineSummary comment).output.text =
        "/// <summary> Width.\nvoid Grow(); </summary>\n" ∧
      (∀ written : String,
        rendering.writeInlineSummary comment = rendering.append written →
          written ≠ "" ∧ ¬ OneCommentLine 0 written) ∧
      Text.withoutCommentLines (body unit.withoutFieldComments) ≠
        Text.withoutCommentLines (body unit) := by
  intro rendering comment unit body
  have start : rendering.StartsLine 0 := ⟨rfl, rfl, rfl⟩
  have bodyOf (rendered : CompilationUnit)
      (unhooked : otherUnitHooks.get? rendered.fileName = none) :
      body rendered =
        Listing.text (headerItems rendered .standard .native) := by
    change
      (renderUnit layout rendered .standard .native
        otherUnitHooks).1.body = _
    rw [renderUnit_unhooked rendered .standard .native otherUnitHooks
      unhooked]
  refine ⟨⟨start, rfl⟩, by decide, ?_, ?_⟩
  · intro written appends
    obtain ⟨known, knownAppends, empty_iff, _, oneLine_iff⟩ :=
      inlineSummary_appends start comment
    have same : known = written := by
      have sameTexts := knownAppends.symm.trans appends
      have sameText := congrArg (fun after => after.output.text) sameTexts
      simpa [Rendering.append, rendering, Rendering.start,
        IndentedText.empty] using sameText
    rw [← same]
    exact ⟨mt empty_iff.mp (by decide), mt oneLine_iff.mp (by decide)⟩
  · rw [bodyOf _ rfl, bodyOf _ rfl]
    intro sameCode
    have allMarked :=
      (withoutCommentLines_withoutFieldComments_iff unit .standard
        .native).mp sameCode
    revert allMarked
    decide

end Header

end ManagedBinding
