import ManagedBinding.Proofs.Header.Refinement
import ManagedBinding.Proofs.Text.Wrap

/-!
# Comments do not affect the code

The comments of classes, methods and events reach the header on lines of their
own, each of which starts with the comment mark.  So two units that differ only
in these comments have the same header once the comment lines are deleted,
whatever the comments contain.

The argument runs over listings.  The code lines of a listing are the lines
that deleting leaves; they distribute over the parts of a listing, and a
comment block has none.
-/

namespace ManagedBinding

namespace Text

/-- The line is ended and, behind its spaces, starts with the comment mark. -/
def isCommentLine (line : List Char) : Bool :=
  line.getLast? == some '\n' &&
    ['/', '/', '/'].isPrefixOf (line.dropWhile (· == ' '))

/-- A text without its comment lines. -/
def withoutCommentLines (text : String) : String :=
  String.ofList
    ((pieces text.toList).filter fun line => !isCommentLine line).flatten

/-- Behind its spaces, the line starts with the comment mark. -/
def startsWithMark (line : List Char) : Bool :=
  ['/', '/', '/'].isPrefixOf (line.dropWhile (· == ' '))

/-- A mark does not reach beyond a line into what follows, if that starts with
none of its characters. -/
theorem isPrefixOf_append_of_head
    (mark line : List Char) {behind : List Char}
    (foreign : ∀ char ∈ behind.head?, char ∉ mark) :
    mark.isPrefixOf (line ++ behind) = mark.isPrefixOf line := by
  induction mark generalizing line with
  | nil => rfl
  | cons char rest inductionHypothesis =>
      have foreignRest : ∀ next ∈ behind.head?, next ∉ rest := by
        intro next atHead inRest
        exact foreign next atHead (List.mem_cons_of_mem char inRest)
      cases line with
      | nil =>
          cases behind with
          | nil => rfl
          | cons next others =>
              have different : (char == next) = false := by
                refine beq_false_of_ne ?_
                rintro rfl
                exact foreign char rfl List.mem_cons_self
              rw [List.nil_append, List.isPrefixOf_cons_cons, different]
              rfl
      | cons first others =>
          rw [List.cons_append, List.isPrefixOf_cons_cons,
            List.isPrefixOf_cons_cons, inductionHypothesis others foreignRest]

/-- What follows a line does not give it a mark. -/
theorem startsWithMark_append
    (line : List Char) {behind : List Char}
    (noSlash : ∀ char ∈ behind.head?, char ∉ ['/', '/', '/'])
    (unmarked : startsWithMark behind = false) :
    startsWithMark (line ++ behind) = startsWithMark line := by
  induction line with
  | nil =>
      rw [List.nil_append, unmarked]
      rfl
  | cons char rest inductionHypothesis =>
      by_cases space : char = ' '
      · rw [space]
        exact inductionHypothesis
      · have stops (others : List Char) :
            (char :: others).dropWhile (· == ' ') = char :: others := by
          rw [List.dropWhile_cons, if_neg]
          exact mt beq_iff_eq.mp space
        rw [List.cons_append, startsWithMark, startsWithMark, stops, stops]
        exact isPrefixOf_append_of_head ['/', '/', '/'] (char :: rest)
          noSlash

/-- Whether a line is a comment line does not depend on its depth. -/
theorem isCommentLine_indentLine (depth : Nat) (line : List Char) :
    isCommentLine (Listing.indentLine depth line ++ ['\n']) =
      startsWithMark line := by
  have spaces :
      ∀ char ∈ List.replicate (4 * depth) ' ', (char == ' ') = true := by
    intro char member
    rw [List.eq_of_mem_replicate member]
    rfl
  have ended : startsWithMark (line ++ ['\n']) = startsWithMark line := by
    refine startsWithMark_append line ?_ rfl
    intro char atHead
    rw [← Option.some.inj atHead]
    decide
  rw [isCommentLine, List.getLast?_concat, ← ended, Listing.indentLine]
  cases line with
  | nil => rfl
  | cons char rest =>
      rw [List.isEmpty_cons, if_neg Bool.false_ne_true, List.append_assoc,
        List.dropWhile_append_of_pos spaces]
      rfl

end Text

namespace Listing

/-- The lines of a listing that are no comment lines. -/
def codeLines (items : List Item) : List (List Char) :=
  (items.flatMap Item.lines).filter fun line =>
    !Text.isCommentLine (line ++ ['\n'])

@[simp]
theorem codeLines_append (upper lower : List Item) :
    codeLines (upper ++ lower) = codeLines upper ++ codeLines lower := by
  rw [codeLines, List.flatMap_append, List.filter_append]
  rfl

theorem codeLines_flatMap
    {β : Type} (members : List β) (items : β → List Item) :
    codeLines (members.flatMap items) =
      members.flatMap fun member => codeLines (items member) := by
  induction members with
  | nil =>
      rfl
  | cons member rest inductionHypothesis =>
      rw [List.flatMap_cons, codeLines_append, inductionHypothesis]
      rfl

/-- Deleting the comment lines from the text of a listing leaves its code
lines. -/
theorem withoutCommentLines_text (items : List Item) :
    Text.withoutCommentLines (text items) =
      String.ofList (Text.endLines (codeLines items)) := by
  have unbroken :
      ∀ line ∈ items.flatMap Item.lines, '\n' ∉ line := by
    intro line member
    obtain ⟨item, _, ofItem⟩ := List.mem_flatMap.mp member
    exact item.lines_unbroken line ofItem
  rw [Text.withoutCommentLines, text, String.toList_ofList,
    Text.pieces_endLines unbroken, List.filter_map, codeLines,
    Text.endLines, List.flatMap_def]
  rfl

/-- A text has no code lines if all its lines are behind the comment mark. -/
theorem codeLines_singleton_eq_nil_iff (depth : Nat) (text : String) :
    codeLines [⟨depth, text⟩] = [] ↔
      ∀ line ∈ text.toList.splitOn '\n',
        Text.startsWithMark line = true := by
  rw [codeLines, List.flatMap_singleton, Item.lines, List.filter_map,
    List.map_eq_nil_iff, List.filter_eq_nil_iff]
  simp only [Function.comp_apply, Text.isCommentLine_indentLine,
    Bool.not_eq_true', Bool.not_eq_false]

/-- An unbroken text that starts with the comment mark has no code lines. -/
theorem codeLines_comment
    (depth : Nat) {text : String} {rest : List Char}
    (marked : text.toList = '/' :: '/' :: '/' :: rest)
    (unbroken : '\n' ∉ text.toList) :
    codeLines [⟨depth, text⟩] = [] := by
  rw [codeLines_singleton_eq_nil_iff, List.splitOn_eq_singleton unbroken]
  intro line member
  rw [List.mem_singleton.mp member, marked]
  rfl

end Listing

/-! ## Units without comments -/

def Method.withoutComment (method : Method) : Method :=
  { method with declaration := { method.declaration with comment := none } }

def Event.withoutComment (event : Event) : Event :=
  { event with declaration := { event.declaration with comment := none } }

/-- A class without its comment and without those of its methods and
events. -/
def Class.withoutComments (owner : Class) : Class :=
  { owner with
    declaration := { owner.declaration with comment := none }
    methods := owner.methods.map Method.withoutComment
    events := owner.events.map Event.withoutComment }

/-- A unit without the comments of its classes and of their methods and
events. -/
def CompilationUnit.withoutComments (unit : CompilationUnit) :
    CompilationUnit :=
  { unit with classes := unit.classes.map Class.withoutComments }

theorem Class.eligibleMethods_withoutComments (owner : Class) :
    owner.withoutComments.eligibleMethods =
      owner.eligibleMethods.map Method.withoutComment := by
  rw [eligibleMethods, withoutComments, List.filter_map]
  rfl

namespace Header

open Listing (Item codeLines)

theorem toList_commentLine (line : String) :
    (Rendering.commentLine line).toList =
      '/' :: '/' :: '/' :: Text.trimEnd (' ' :: line.toList) := by
  rw [Rendering.commentLine, String.toList_ofList, String.toList_append]
  exact Text.trimEnd_append_visible ['/', '/'] (' ' :: line.toList)
    (by decide)

theorem commentLine_unbroken
    {line : String} (unbroken : '\n' ∉ line.toList) :
    '\n' ∉ (Rendering.commentLine line).toList := by
  rw [Rendering.commentLine, String.toList_ofList, String.toList_append]
  intro inside
  rcases List.mem_append.mp (Text.mem_of_mem_trimEnd inside) with
    inMark | inLine
  · exact absurd inMark (by decide)
  · exact unbroken inLine

theorem codeLines_commentLine
    (depth : Nat) {line : String} (unbroken : '\n' ∉ line.toList) :
    codeLines [⟨depth, Rendering.commentLine line⟩] = [] :=
  Listing.codeLines_comment depth (toList_commentLine line)
    (commentLine_unbroken unbroken)

theorem codeLines_summaryItems (depth : Nat) (comment : Option String) :
    codeLines (summaryItems depth comment) = [] := by
  cases comment with
  | none =>
      rfl
  | some text =>
      rw [summaryItems_some]
      by_cases blank : Text.isBlank text = true
      · rw [if_pos blank]
        rfl
      · have opening :
            codeLines [⟨depth, "/// <summary>"⟩] = [] :=
          Listing.codeLines_comment depth rfl (by decide)
        have closing :
            codeLines [⟨depth, "/// </summary>"⟩] = [] :=
          Listing.codeLines_comment depth rfl (by decide)
        have body :
            codeLines
                ((Text.wrap (80 - 4 * depth - 4) text).flatMap
                  fun line => [⟨depth, Rendering.commentLine line⟩]) =
              [] := by
          rw [Listing.codeLines_flatMap, List.flatMap_eq_nil_iff]
          intro line member
          exact codeLines_commentLine depth
            (Text.not_mem_of_mem_wrap member)
        rw [if_neg blank]
        simp only [List.map_append, List.map_cons, List.map_nil,
          List.map_map, Listing.codeLines_append, opening, closing,
          List.nil_append, List.append_nil]
        rw [List.map_eq_flatMap]
        exact body

section CodeLines

variable (printer : TypePrinter)

theorem codeLines_methodItems
    (owner : Class) (depth : Nat) (method : Method) :
    codeLines
        (methodItems printer owner.withoutComments depth
          method.withoutComment) =
      codeLines (methodItems printer owner depth method) := by
  rw [methodItems, methodItems, Listing.codeLines_append,
    Listing.codeLines_append, codeLines_summaryItems,
    codeLines_summaryItems]
  rfl

theorem codeLines_eventItems (depth : Nat) (event : Event) :
    codeLines (eventItems printer depth event.withoutComment) =
      codeLines (eventItems printer depth event) := by
  rw [eventItems_eq, eventItems_eq, Listing.codeLines_append,
    Listing.codeLines_append, codeLines_summaryItems,
    codeLines_summaryItems]
  rfl

theorem codeLines_classOpening (depth : Nat) (owner : Class) :
    codeLines (classOpening depth owner.withoutComments) =
      codeLines (classOpening depth owner) := by
  rw [classOpening, classOpening]
  simp only [Listing.codeLines_append, codeLines_summaryItems]
  rfl

theorem codeLines_memberItems (depth : Nat) (owner : Class) :
    codeLines (memberItems printer depth owner.withoutComments) =
      codeLines (memberItems printer depth owner) := by
  have events :
      emittedEvents owner.withoutComments =
        (emittedEvents owner).map Event.withoutComment := by
    rw [emittedEvents, Class.withoutComments, List.filter_map]
    rfl
  rw [memberItems_eq, memberItems_eq, Class.eligibleMethods_withoutComments,
    events]
  simp only [Listing.codeLines_append, Listing.codeLines_flatMap,
    List.flatMap_map, codeLines_methodItems, codeLines_eventItems]
  rfl

theorem codeLines_classItems (depth : Nat) (owner : Class) :
    codeLines (classItems printer depth owner.withoutComments) =
      codeLines (classItems printer depth owner) := by
  rw [classItems, classItems]
  simp only [Listing.codeLines_append, codeLines_classOpening,
    codeLines_memberItems]

theorem emittedClasses_withoutComments (unit : CompilationUnit) :
    emittedClasses unit.withoutComments =
      (emittedClasses unit).map Class.withoutComments := by
  rw [emittedClasses, CompilationUnit.withoutComments, List.filter_map]
  rfl

theorem codeLines_namespaceItems
    (options : Options) {left right : List Item}
    (same : codeLines left = codeLines right) :
    codeLines (namespaceItems options left) =
      codeLines (namespaceItems options right) := by
  rw [namespaceItems, namespaceItems]
  split
  · simp only [Listing.codeLines_append, same]
  · exact same

theorem codeLines_headerItems
    (unit : CompilationUnit) (options : Options) :
    codeLines (headerItems unit.withoutComments options printer) =
      codeLines (headerItems unit options printer) := by
  have classes :
      codeLines
          ((emittedClasses unit.withoutComments).flatMap
            (classItems printer (classDepth options))) =
        codeLines
          ((emittedClasses unit).flatMap
            (classItems printer (classDepth options))) := by
    rw [emittedClasses_withoutComments]
    simp only [Listing.codeLines_flatMap, List.flatMap_map,
      codeLines_classItems]
  have wrapped := codeLines_namespaceItems options classes
  rw [headerItems, headerItems, Listing.codeLines_append,
    Listing.codeLines_append]
  exact congrArg (codeLines (topItems unit) ++ ·) wrapped

end CodeLines

theorem classEvents_withoutComments (owner : Class) :
    classEvents owner.withoutComments = classEvents owner := by
  rw [classEvents, classEvents, Class.withoutComments, List.flatMap_map]
  rfl

theorem unitEvents_withoutComments (unit : CompilationUnit) :
    (emittedClasses unit.withoutComments).flatMap classEvents =
      (emittedClasses unit).flatMap classEvents := by
  rw [emittedClasses_withoutComments, List.flatMap_map]
  simp only [classEvents_withoutComments]

/-- Two units that differ only in the comments of their classes, methods and
events have the same header up to comment lines, the same includes and the
same log. -/
theorem comments_do_not_affect_code
    {η : Type} [Hook η] (left right : CompilationUnit) (options : Options)
    (printer : TypePrinter) (hooks : HookTable η)
    (unhooked : hooks.get? left.fileName = none)
    (same : left.withoutComments = right.withoutComments) :
    let ofLeft := renderUnit layout left options printer hooks
    let ofRight := renderUnit layout right options printer hooks
    Text.withoutCommentLines ofLeft.1.body =
        Text.withoutCommentLines ofRight.1.body ∧
      ofLeft.1.includes = ofRight.1.includes ∧
      ofLeft.2 = ofRight.2 := by
  intro ofLeft ofRight
  have sameFile : left.fileName = right.fileName := by
    have sameName := congrArg CompilationUnit.fileName same
    exact sameName
  have leftEq := renderUnit_unhooked left options printer hooks unhooked
  have rightEq :=
    renderUnit_unhooked right options printer hooks (sameFile ▸ unhooked)
  have sameCode :
      codeLines (headerItems left options printer) =
        codeLines (headerItems right options printer) := by
    rw [← codeLines_headerItems, same, codeLines_headerItems]
  have sameEvents :
      (emittedClasses left).flatMap classEvents =
        (emittedClasses right).flatMap classEvents := by
    rw [← unitEvents_withoutComments, same, unitEvents_withoutComments]
  refine ⟨?_, ?_, ?_⟩
  · change
      Text.withoutCommentLines
          (renderUnit layout left options printer hooks).1.body =
        Text.withoutCommentLines
          (renderUnit layout right options printer hooks).1.body
    rw [leftEq, rightEq, Listing.withoutCommentLines_text,
      Listing.withoutCommentLines_text, sameCode]
  · change
      (renderUnit layout left options printer hooks).1.includes =
        (renderUnit layout right options printer hooks).1.includes
    rw [leftEq, rightEq, sameFile]
  · change
      (renderUnit layout left options printer hooks).2 =
        (renderUnit layout right options printer hooks).2
    rw [leftEq, rightEq, sameFile, sameEvents]

/-- A unit whose class, method and event have the given comment, if any. -/
def commentedUnit (comment : Option String) : CompilationUnit :=
  let declared (name : String) : Declaration :=
    { Declaration.named name with comment := comment }
  { fileName := "timer.h"
    classes :=
      [{ Class.named "Timer" with
          declaration := declared "Timer"
          methods :=
            [{ Method.named "Start" .void with
                declaration := declared "Start" }]
          events :=
            [{ Event.named "Elapsed" [] with
                declaration := declared "Elapsed" }] }] }

/-- A comment that closes its own block and goes on with a declaration. -/
theorem comments_do_not_affect_code_timer :
    let plain := commentedUnit none
    let commented :=
      commentedUnit (some "</summary>\n\nvoid Stop();\r\n///")
    let ofPlain := renderUnit layout plain .standard .native otherUnitHooks
    let ofCommented :=
      renderUnit layout commented .standard .native otherUnitHooks
    plain ≠ commented ∧
      otherUnitHooks.get? plain.fileName = none ∧
      plain.withoutComments = commented.withoutComments ∧
      Text.withoutCommentLines ofPlain.1.body =
        Text.withoutCommentLines ofCommented.1.body ∧
      ofPlain.1.includes = ofCommented.1.includes ∧
      ofPlain.2 = ofCommented.2 :=
  ⟨by decide, rfl, rfl,
    comments_do_not_affect_code (commentedUnit none)
      (commentedUnit (some "</summary>\n\nvoid Stop();\r\n///"))
      .standard .native otherUnitHooks rfl rfl⟩

end Header

end ManagedBinding
