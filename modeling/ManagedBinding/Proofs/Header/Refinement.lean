import ManagedBinding.Proofs.Header.Reference
import ManagedBinding.Proofs.Render.Emission
import ManagedBinding.Render.Header

/-!
# Writing a header writes its listing

Every writer of the header emits the items that the listing has for it, from
the comments up to the whole file.  Where the listing has terms of its own, an
equation with the terms of the writer comes first.  The step for a member says
what is written and what is logged for it; the run over a class, over the
classes of a unit and over the file follows by composition.  The central
statement is `renderUnit_unhooked`, which gives body, includes and log of an
unhooked run in closed form.
-/

namespace ManagedBinding.Header

open Listing (Item)
open Rendering (Emits)

variable {η : Type} {depth : Nat}

theorem commentWidth_of_startsLine
    {rendering : Rendering η} (start : rendering.StartsLine depth) :
    rendering.commentWidth = 80 - 4 * depth - 4 := by
  have columns : rendering.output.indentWidth = 4 * depth := by
    rw [IndentedText.indentWidth, start.depth_eq, start.style_eq,
      Nat.mul_comm]
    rfl
  rw [Rendering.commentWidth, columns]
  rfl

theorem any_not_isBlankChar (text : String) :
    (text.toList.any fun char => !Text.isBlankChar char) =
      !Text.isBlank text :=
  List.not_all_eq_any_not.symm

/-- The block of a comment, by the tests and the lines of its writer. -/
theorem summaryItems_some (depth : Nat) (comment : String) :
    summaryItems depth (some comment) =
      if Text.isBlank comment then
        []
      else
        (["/// <summary>"] ++
          (Text.wrap (80 - 4 * depth - 4) comment).map
            Rendering.commentLine ++ ["/// </summary>"]).map
              fun line => ⟨depth, line⟩ := by
  have sameLine : markedLine = Rendering.commentLine := rfl
  rw [summaryItems, sameLine, any_not_isBlankChar]
  cases Text.isBlank comment <;> rfl

theorem inlineSummaryItems_some (depth : Nat) (comment : String) :
    inlineSummaryItems depth (some comment) =
      if Text.isBlank comment then
        []
      else
        [⟨depth, "/// <summary> " ++ comment ++ " </summary>"⟩] := by
  rw [inlineSummaryItems, any_not_isBlankChar]
  cases Text.isBlank comment <;> rfl

theorem emits_writeSummary (comment : String) :
    Emits depth (fun rendering : Rendering η => rendering.writeSummary comment)
      (summaryItems depth (some comment)) [] := by
  intro rendering start
  rw [summaryItems_some]
  by_cases blank : Text.isBlank comment = true
  · simp [Rendering.writeSummary, blank]
  · have written :=
      Rendering.emits_writeLines depth
        (["/// <summary>"] ++
          (Text.wrap (80 - 4 * depth - 4) comment).map
            Rendering.commentLine ++ ["/// </summary>"]) rendering start
    simpa only [Rendering.writeSummary, if_neg blank,
      commentWidth_of_startsLine start] using written

theorem emits_writeComment (declaration : Declaration) :
    Emits depth
      (fun rendering : Rendering η => writeComment rendering declaration)
      (summaryItems depth declaration.comment) [] := by
  cases comment : declaration.comment with
  | none =>
      intro rendering _
      simp [writeComment, comment, summaryItems]
  | some text =>
      intro rendering start
      have written := emits_writeSummary text rendering start
      simpa only [writeComment, comment] using written

theorem emits_writeInlineComment (declaration : Declaration) :
    Emits depth
      (fun rendering : Rendering η =>
        writeInlineComment rendering declaration)
      (inlineSummaryItems depth declaration.comment) [] := by
  cases comment : declaration.comment with
  | none =>
      intro rendering _
      simp [writeInlineComment, comment, inlineSummaryItems]
  | some text =>
      intro rendering start
      by_cases blank : Text.isBlank text = true
      · simp [writeInlineComment, comment, inlineSummaryItems_some, blank,
          Rendering.writeInlineSummary]
      · have written :=
          Rendering.emits_writeLine depth
            ("/// <summary> " ++ text ++ " </summary>") rendering start
        simpa [writeInlineComment, comment, inlineSummaryItems_some, blank,
          Rendering.writeInlineSummary] using written

/-! ## Members -/

/-- The parameters that a method shows are its parameters without the
receiver. -/
theorem methodParameters_eq (printer : TypePrinter) (method : Method) :
    printer.methodParameters method =
      ", ".intercalate
        ((if method.conversion = .toInstanceMethod then
            method.parameters.tail
          else
            method.parameters).map printer.printParameter) := by
  rw [TypePrinter.methodParameters, Method.hasReceiverParameter]
  by_cases converted : method.conversion = .toInstanceMethod
  · rw [if_pos converted, converted, ← List.drop_one]
    rfl
  · have notConverted :
        (method.conversion == .toInstanceMethod) = false :=
      beq_eq_false_iff_ne.mpr converted
    rw [if_neg converted, notConverted]
    rfl

/-- The partial writes of a method declaration come to one line. -/
theorem writeMethod_eq_writeLine
    (printer : TypePrinter) (owner : Class)
    (rendering : Rendering η) (method : Method) :
    writeMethod printer owner rendering method =
      (writeComment rendering method.declaration).writeLine
        (methodText printer owner method) := by
  have qualified (commented : Rendering η) :
      (if isStaticMethod method then
          commented.write "static "
        else
          commented) =
        commented.write (if isStaticMethod method then "static " else "") := by
    split
    · rfl
    · rw [Rendering.write_empty]
  simp only [writeMethod, qualified, Rendering.write_write,
    Rendering.write_writeLine]
  simp only [methodText, methodHead, methodParameters_eq, isStaticMethod,
    emittedIdentifier_eq, String.append_assoc]
  rfl

theorem emits_writeMethod
    (printer : TypePrinter) (owner : Class) (method : Method) :
    Emits depth
      (fun rendering : Rendering η =>
        writeMethod printer owner rendering method)
      (methodItems printer owner depth method) [] := by
  simp only [writeMethod_eq_writeLine]
  exact (emits_writeComment method.declaration).comp <|
    Rendering.emits_writeLine depth (methodText printer owner method)

/-- The log entry for a method that is left out. -/
def methodEvents (owner : Class) (method : Method) : List LogEvent :=
  ((method.exclusion? owner).map
    (.skippingMethod owner.declaration.qualifiedName method.name)).toList

/-- A method is either declared or reported. -/
theorem emits_writeEligibleMethod
    (printer : TypePrinter) (owner : Class) (method : Method) :
    Emits depth
      (fun rendering : Rendering η =>
        writeEligibleMethod printer owner rendering method)
      (if method.isExcluded owner then
        []
      else
        methodItems printer owner depth method)
      (methodEvents owner method) := by
  intro rendering start
  cases reason : method.exclusion? owner with
  | none =>
      have written :=
        emits_writeMethod printer owner method rendering start
      simpa [writeEligibleMethod, Rendering.admitsMethod, reason,
        Method.isExcluded, methodEvents] using written
  | some found =>
      have reported :=
        Rendering.emits_report depth
          (.skippingMethod owner.declaration.qualifiedName method.name
            found) rendering start
      simpa [writeEligibleMethod, Rendering.admitsMethod, reason,
        Method.isExcluded, methodEvents] using reported

theorem emits_writeField (printer : TypePrinter) (field : Field) :
    Emits depth
      (fun rendering : Rendering η => writeField printer rendering field)
      (fieldItems printer depth field) [] := by
  simp only [writeField, emittedIdentifier_eq]
  exact (emits_writeInlineComment field.declaration).comp <|
    Rendering.emits_writeLine depth
      (printer.printType field.type ++ " " ++ field.name ++ ";")

/-- The log entry for a field that is left out. -/
def fieldEvents (owner : Class) (field : Field) : List LogEvent :=
  (field.exclusion?.map
    (.skippingField owner.declaration.qualifiedName field.name)).toList

/-- A field is either declared or reported. -/
theorem emits_writeEligibleField
    (printer : TypePrinter) (owner : Class) (field : Field) :
    Emits depth
      (fun rendering : Rendering η =>
        writeEligibleField printer owner rendering field)
      (if field.isExcluded then [] else fieldItems printer depth field)
      (fieldEvents owner field) := by
  intro rendering start
  cases reason : field.exclusion? with
  | none =>
      have written := emits_writeField printer field rendering start
      simpa [writeEligibleField, Rendering.admitsField, reason,
        Field.isExcluded, fieldEvents] using written
  | some found =>
      have reported :=
        Rendering.emits_report depth
          (.skippingField owner.declaration.qualifiedName field.name
            found) rendering start
      simpa [writeEligibleField, Rendering.admitsField, reason,
        Field.isExcluded, fieldEvents] using reported

theorem eventItems_eq
    (printer : TypePrinter) (depth : Nat) (event : Event) :
    eventItems printer depth event =
      summaryItems depth event.declaration.comment ++
        [⟨depth, delegateLine printer event⟩,
          ⟨depth, eventLine event⟩] := by
  have sameParameters :
      (event.parameterTypes.zipIdx.map fun numbered =>
          (⟨"_" ++ toString numbered.2, numbered.1⟩ : Parameter)) =
        event.handlerParameters := by
    rw [Event.handlerParameters, List.mapIdx_eq_zipIdx_map]
  simp only [eventItems, sameParameters]
  rfl

theorem emits_writeEvent (printer : TypePrinter) (event : Event) :
    Emits depth
      (fun rendering : Rendering η => writeEvent printer rendering event)
      (eventItems printer depth event) [] := by
  simp only [writeEvent, eventItems_eq]
  exact (emits_writeComment event.declaration).comp <|
    Rendering.emits_writeLines depth
      [delegateLine printer event, eventLine event]

/-- Items for the members that are kept are the items of the kept
members. -/
private theorem flatMap_unless
    {α β : Type} (excluded : α → Bool) (items : α → List β)
    (members : List α) :
    (members.flatMap fun member =>
        if excluded member then [] else items member) =
      (members.filter fun member => !excluded member).flatMap items := by
  induction members with
  | nil =>
      rfl
  | cons member rest inductionHypothesis =>
      rw [List.flatMap_cons, inductionHypothesis]
      by_cases out : excluded member = true
      · simp [out]
      · simp [out]

/-- The log entries for the members of a class: all methods that are left out,
then all fields that are. -/
def classEvents (owner : Class) : List LogEvent :=
  owner.methods.flatMap (methodEvents owner) ++
    owner.fields.flatMap (fieldEvents owner)

theorem memberItems_eq
    (printer : TypePrinter) (depth : Nat) (owner : Class) :
    memberItems printer depth owner =
      owner.eligibleMethods.flatMap (methodItems printer owner depth) ++
        owner.eligibleFields.flatMap (fieldItems printer depth) ++
        (emittedEvents owner).flatMap (eventItems printer depth) := by
  rw [memberItems, owner.filter_methodRules, owner.filter_fieldRules]
  rfl

theorem classItems_eq
    (printer : TypePrinter) (depth : Nat) (owner : Class) :
    classItems printer depth owner =
      classOpening depth owner ++
        (owner.eligibleMethods.flatMap
            (methodItems printer owner (depth + 1)) ++
          owner.eligibleFields.flatMap (fieldItems printer (depth + 1)) ++
          (emittedEvents owner).flatMap (eventItems printer (depth + 1))) ++
        [⟨depth, "\x7d;"⟩] := by
  rw [classItems, memberItems_eq]

theorem emits_writeMembers (printer : TypePrinter) (owner : Class) :
    Emits depth
      (fun rendering : Rendering η => writeMembers printer rendering owner)
      (memberItems printer depth owner) (classEvents owner) := by
  have methods :
      Emits depth
        (fun rendering : Rendering η =>
          owner.methods.foldl (writeEligibleMethod printer owner) rendering)
        (owner.eligibleMethods.flatMap (methodItems printer owner depth))
        (owner.methods.flatMap (methodEvents owner)) := by
    rw [Class.eligibleMethods, ← flatMap_unless]
    exact Emits.foldl owner.methods fun method _ =>
      emits_writeEligibleMethod printer owner method
  have fields :
      Emits depth
        (fun rendering : Rendering η =>
          owner.fields.foldl (writeEligibleField printer owner) rendering)
        (owner.eligibleFields.flatMap (fieldItems printer depth))
        (owner.fields.flatMap (fieldEvents owner)) := by
    rw [Class.eligibleFields, ← flatMap_unless]
    exact Emits.foldl owner.fields fun field _ =>
      emits_writeEligibleField printer owner field
  have events :
      Emits depth
        (fun rendering : Rendering η =>
          (emittedEvents owner).foldl (writeEvent printer) rendering)
        ((emittedEvents owner).flatMap (eventItems printer depth)) [] :=
    Emits.foldl_silent (emittedEvents owner) fun event _ =>
      emits_writeEvent printer event
  have all := (methods.comp fields).comp events
  rw [List.append_nil] at all
  rw [memberItems_eq]
  exact all

theorem classHead_eq (owner : Class) :
    classHead owner =
      "public " ++
        (if owner.isValueType then "value struct " else "ref class ") ++
        owner.name := by
  rw [classHead, emittedIdentifier_eq]
  by_cases isValueType : owner.isValueType = true
  · rw [if_pos isValueType, if_pos isValueType]
    exact congrArg (· ++ owner.name) (by decide)
  · rw [if_neg isValueType, if_neg isValueType]
    exact congrArg (· ++ owner.name) (by decide)

/-- The lines of a class, behind an empty line. -/
theorem emits_writeClass (printer : TypePrinter) (owner : Class) :
    Emits depth
      (fun rendering : Rendering η =>
        writeClass printer rendering.newLine owner)
      (classItems printer depth owner) (classEvents owner) := by
  have opening :
      Emits depth
        (fun rendering : Rendering η =>
          (writeComment rendering.newLine owner.declaration).writeLines
            [classHead owner, "\x7b", "public:"])
        (classOpening depth owner) [] := by
    rw [classOpening, ← classHead_eq]
    exact
      ((Rendering.emits_newLine depth).comp
        (emits_writeComment owner.declaration)).comp <|
          Rendering.emits_writeLines depth
            [classHead owner, "\x7b", "public:"]
  have members :
      Emits depth
        (fun rendering : Rendering η =>
          (writeMembers printer rendering.pushIndent owner).popIndent)
        (memberItems printer (depth + 1) owner) (classEvents owner) :=
    (emits_writeMembers printer owner).indented
  have closing := Rendering.emits_writeLine (η := η) depth "\x7d;"
  have all := (opening.comp members).comp closing
  rw [List.append_nil, List.nil_append] at all
  exact all

theorem emits_writeClasses (job : RenderJob) :
    Emits depth (fun rendering : Rendering η => writeClasses job rendering)
      ((emittedClasses job.unit).flatMap (classItems job.printer depth))
      ((emittedClasses job.unit).flatMap classEvents) :=
  Emits.foldl (emittedClasses job.unit) fun owner _ =>
    emits_writeClass job.printer owner

/-- What is written between the opening and the closing of the library
namespace stands inside it. -/
theorem emits_insideNamespace
    (options : Options) {write : Rendering η → Rendering η}
    {items : List Item} {events : List LogEvent}
    (emitsInside : Emits (classDepth options) write items events) :
    Emits 0
      (fun rendering =>
        closeNamespace options (write (openNamespace options rendering)))
      (namespaceItems options items) events := by
  obtain ⟨wraps, name⟩ := options
  cases wraps with
  | false => exact emitsInside
  | true =>
      have inside : Emits (0 + 1) write items events := emitsInside
      have opening :=
        (Rendering.emits_newLine (η := η) 0).comp <|
          Rendering.emits_writeLines 0 ["namespace " ++ name, "\x7b"]
      have closing := Rendering.emits_writeLine (η := η) 0 "\x7d"
      have all := (opening.comp inside.indented).comp closing
      rw [List.append_nil, List.append_nil, List.nil_append] at all
      exact all

/-! ## The file -/

theorem writeLines_hook (rendering : Rendering η) (lines : List String) :
    (rendering.writeLines lines).hook = rendering.hook := by
  induction lines generalizing rendering with
  | nil =>
      rfl
  | cons line rest inductionHypothesis =>
      exact inductionHypothesis (rendering.writeLine line)

theorem openNamespace_hook
    (options : Options) (rendering : Rendering η) :
    (openNamespace options rendering).hook = rendering.hook := by
  rw [openNamespace]
  split
  · exact writeLines_hook _ _
  · rfl

/-- The include block has one line for each include that is recorded by then,
the native header of the unit among them. -/
theorem writeIncludes_eq_emit
    (unit : CompilationUnit) {rendering : Rendering η}
    (start : rendering.StartsLine depth) :
    let recorded := rendering.addInclude ⟨unit.fileName, .quoted⟩
    writeIncludes unit rendering =
      recorded.emit
        (recorded.includes.items.map fun item => ⟨depth, item.directive⟩)
        [] := by
  intro recorded
  have startRecorded : recorded.StartsLine depth :=
    ⟨start.atLineStart, start.depth_eq, start.style_eq⟩
  have written :=
    Rendering.emits_writeLines depth
      (recorded.includes.items.map Include.directive) recorded startRecorded
  rw [List.map_map] at written
  calc
    writeIncludes unit rendering = recorded.write recorded.includes.render :=
      rfl
    _ = recorded.writeLines
          (recorded.includes.items.map Include.directive) :=
      Rendering.write_render recorded recorded.includes
    _ = _ := written

theorem banner_eq : RenderJob.banner = bannerLines := by
  decide

/-- The lines in front of the include block of an unhooked header. -/
theorem emits_guard :
    Emits 0
      (fun rendering : Rendering η =>
        ((rendering.writeLines RenderJob.banner).writeLine
          "#pragma once").newLine)
      ((bannerLines ++ ["#pragma once", ""]).map fun line => ⟨0, line⟩)
      [] := by
  rw [banner_eq]
  have all :=
    ((Rendering.emits_writeLines (η := η) 0 bannerLines).comp
      (Rendering.emits_writeLine 0 "#pragma once")).comp
        (Rendering.emits_newLine 0)
  simpa only [List.map_append, List.map_cons, List.map_nil,
    List.append_assoc, List.cons_append, List.nil_append] using all

/-- Down to the include block, an unhooked header without recorded includes
consists of the top of its listing. -/
theorem writeIncludes_unhooked
    [Hook η] (job : RenderJob) {rendering : Rendering η}
    (unhooked : rendering.hook = none)
    (start : rendering.StartsLine 0)
    (noIncludes : rendering.includes = .empty)
    (notSource : job.extension ≠ RenderJob.nativeSourceExtension) :
    writeIncludes job.unit
        ((job.writeStart rendering).writeLine "#pragma once").newLine =
      (rendering.addInclude ⟨job.unit.fileName, .quoted⟩).emit
        (topItems job.unit) [] := by
  let guardItems : List Item :=
    (bannerLines ++ ["#pragma once", ""]).map fun line => ⟨0, line⟩
  let recorded := rendering.addInclude ⟨job.unit.fileName, .quoted⟩
  have guardWritten :
      ((job.writeStart rendering).writeLine "#pragma once").newLine =
        rendering.emit guardItems [] := by
    rw [RenderJob.writeStart, unhooked, RenderJob.preamble,
      if_neg notSource]
    exact emits_guard rendering start
  have ownInclude :
      recorded.includes.items = [⟨job.unit.fileName, .quoted⟩] := by
    change (rendering.includes.insert _).items = _
    rw [noIncludes]
    rfl
  have topSplit :
      guardItems ++
          recorded.includes.items.map (fun item => ⟨0, item.directive⟩) =
        topItems job.unit := by
    rw [ownInclude]
    simp [guardItems, topItems, Include.directive]
  calc
    writeIncludes job.unit
        ((job.writeStart rendering).writeLine "#pragma once").newLine =
        writeIncludes job.unit (rendering.emit guardItems []) := by
      rw [guardWritten]
    _ = (recorded.emit guardItems []).emit
          (recorded.includes.items.map fun item => ⟨0, item.directive⟩)
          [] :=
      writeIncludes_eq_emit job.unit (start.emit guardItems [])
    _ = recorded.emit (topItems job.unit) [] := by
      rw [Rendering.emit_emit, topSplit, List.append_nil]

/-- Without a hook and without recorded includes the whole listing is written,
and the include of the native header is recorded. -/
theorem generate_unhooked
    [Hook η] (job : RenderJob) {rendering : Rendering η}
    (unhooked : rendering.hook = none)
    (start : rendering.StartsLine 0)
    (noIncludes : rendering.includes = .empty)
    (notSource : job.extension ≠ RenderJob.nativeSourceExtension) :
    generate job rendering =
      (rendering.addInclude ⟨job.unit.fileName, .quoted⟩).emit
        (headerItems job.unit job.options job.printer)
        ((emittedClasses job.unit).flatMap classEvents) := by
  let recorded := rendering.addInclude ⟨job.unit.fileName, .quoted⟩
  let included := recorded.emit (topItems job.unit) []
  have startIncluded : included.StartsLine 0 :=
    ⟨start.atLineStart, start.depth_eq, start.style_eq⟩
  have silent :
      job.writeAfterNamespaces (openNamespace job.options included) =
        openNamespace job.options included := by
    have noHook : (openNamespace job.options included).hook = none :=
      (openNamespace_hook job.options included).trans unhooked
    rw [RenderJob.writeAfterNamespaces, noHook]
  have classesWritten :=
    emits_insideNamespace job.options (emits_writeClasses job)
      included startIncluded
  calc
    generate job rendering =
        closeNamespace job.options
          (writeClasses job
            (job.writeAfterNamespaces
              (openNamespace job.options included))) := by
      rw [generate,
        writeIncludes_unhooked job unhooked start noIncludes notSource]
    _ = closeNamespace job.options
          (writeClasses job (openNamespace job.options included)) := by
      rw [silent]
    _ = included.emit
          (namespaceItems job.options
            ((emittedClasses job.unit).flatMap
              (classItems job.printer (classDepth job.options))))
          ((emittedClasses job.unit).flatMap classEvents) :=
      classesWritten
    _ = recorded.emit (headerItems job.unit job.options job.printer)
          ((emittedClasses job.unit).flatMap classEvents) := by
      rw [Rendering.emit_emit, List.nil_append]
      rfl

/-- Body, includes and log of a header that is rendered without a hook. -/
theorem renderUnit_unhooked
    [Hook η] (unit : CompilationUnit) (options : Options)
    (printer : TypePrinter) (hooks : HookTable η)
    (unhooked : hooks.get? unit.fileName = none) :
    renderUnit layout unit options printer hooks =
      (⟨unit.fileName, "h", Listing.text (headerItems unit options printer),
          IncludeSet.empty.insert ⟨unit.fileName, .quoted⟩⟩,
        .renderingUnit unit.fileName "h" false ::
          (emittedClasses unit).flatMap classEvents) := by
  let job : RenderJob := ⟨unit, options, printer, "h"⟩
  let reported :=
    (Rendering.start (none : Option η)).report
      (.renderingUnit unit.fileName "h" false)
  have notSource : job.extension ≠ RenderJob.nativeSourceExtension := by
    change "h" ≠ RenderJob.nativeSourceExtension
    decide
  have written :
      generate job reported =
        (reported.addInclude ⟨unit.fileName, .quoted⟩).emit
          (headerItems unit options printer)
          ((emittedClasses unit).flatMap classEvents) :=
    generate_unhooked job rfl ⟨rfl, rfl, rfl⟩ rfl notSource
  have rendered :
      renderUnit layout unit options printer hooks =
        (job.finish (generate job reported),
          (generate job reported).log) := by
    rw [renderUnit, unhooked]
    rfl
  have body :
      (generate job reported).output.text =
        Listing.text (headerItems unit options printer) := by
    rw [written]
    exact String.empty_append
  rw [rendered, RenderJob.finish, body, written]
  rfl

/-- The body of a header that is rendered without a hook is the text of its
listing, whatever the comments, names and printed types are. -/
theorem renderUnit_body_eq_listing
    [Hook η] (unit : CompilationUnit) (options : Options)
    (printer : TypePrinter) (hooks : HookTable η)
    (unhooked : hooks.get? unit.fileName = none) :
    (renderUnit layout unit options printer hooks).1.body =
      Listing.text (headerItems unit options printer) := by
  rw [renderUnit_unhooked unit options printer hooks unhooked]

/-- A hook that writes lines of its own. -/
structure LineHook where
  name : String
  startLines : List String
  innerLines : List String
  deriving DecidableEq, Repr

instance : Hook LineHook where
  name := LineHook.name
  onStart hook _ rendering := rendering.writeLines hook.startLines
  onAfterNamespaces hook _ rendering := rendering.writeLines hook.innerLines

/-- A table in which another unit than the sample has a hook. -/
def otherUnitHooks : HookTable LineHook :=
  (HookTable.empty.register "other.h"
    ⟨"wrapper", ["// custom preamble"], ["using namespace System;"]⟩).2

/-- A unit with one class that has a member of each kind. -/
def timerUnit : CompilationUnit :=
  let int := QualifiedType.builtin .int
  let start := (Method.named "Start" .void).withParameter ⟨"ticks", int⟩
  let left := (Field.named "left" int).withComment "Ticks to go."
  let elapsed := (Event.named "Elapsed" [int]).withComment "Raised at zero."
  (CompilationUnit.ofFile "timer.h").withClass <|
    (((Class.named "Timer").withMethod start).withField left).withEvent
      elapsed

theorem renderUnit_body_timer :
    let options := Options.standard.withLibraryNamespace "Interop"
    let rendered :=
      renderUnit layout timerUnit options .native otherUnitHooks
    otherUnitHooks.get? timerUnit.fileName = none ∧
      rendered.1.body =
        String.join
          ((bannerLines ++
            ["#pragma once",
              "",
              "#include \"timer.h\"",
              "",
              "namespace Interop",
              "\x7b",
              "",
              "    public ref class Timer",
              "    \x7b",
              "    public:",
              "        void Start(int ticks);",
              "        /// <summary> Ticks to go. </summary>",
              "        int left;",
              "        /// <summary>",
              "        /// Raised at zero.",
              "        /// </summary>",
              "        delegate void ElapsedHandler(int _0);",
              "        event ElapsedHandler^ Elapsed;",
              "    \x7d;",
              "\x7d"]).map (· ++ "\n")) := by
  intro options rendered
  let items := headerItems timerUnit options .native
  have listed : rendered.1.body = Listing.text items :=
    renderUnit_body_eq_listing timerUnit options .native otherUnitHooks rfl
  -- The lines of the banner are long, so they are matched as they stand and
  -- only the items behind them are evaluated.
  have behindBanner :
      items =
        (bannerLines.map fun line => ⟨0, line⟩) ++
          items.drop bannerLines.length :=
    (List.take_append_drop bannerLines.length items).symm
  rw [listed, behindBanner, ← Listing.text_unindented, List.map_append,
    Listing.text_append, Listing.text_append]
  refine ⟨rfl, congrArg (_ ++ ·) (Listing.text_eq_of_lines_eq ?_)⟩
  decide +kernel

end ManagedBinding.Header
