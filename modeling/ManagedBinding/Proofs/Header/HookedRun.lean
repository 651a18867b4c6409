import ManagedBinding.Model.Geometry
import ManagedBinding.Proofs.Header.Refinement

/-!
# Runs with a hook

A hook has a say at two points of a header: at its start, where it takes the
place of the banner, and behind the opened namespaces.  A hook that only
appends text there leaves everything else as it is in a run without a hook.

Both runs are put together from the same two sections, one between the
emission points and one behind them.  A section is emitted from the start of a
line at a known depth, and this is all that it depends on.
-/

namespace ManagedBinding

namespace Rendering

variable {η : Type}

/-- The second rendering is the first one with text behind it, ended at the
start of a line. -/
structure OnlyAppends (before after : Rendering η) (text : String) :
    Prop where
  text_eq : after.output.text = before.output.text ++ text
  atLineStart : after.output.atLineStart = true
  depth_eq : after.output.depth = before.output.depth
  style_eq : after.output.style = before.output.style
  includes_eq : after.includes = before.includes
  hook_eq : after.hook = before.hook
  log_eq : after.log = before.log

/-- The rendering with a text behind its own. -/
def append (rendering : Rendering η) (text : String) : Rendering η :=
  { rendering with
    output :=
      { rendering.output with text := rendering.output.text ++ text } }

/-- The rendering with its output at another depth. -/
def atDepth (rendering : Rendering η) (depth : Nat) : Rendering η :=
  { rendering with output := { rendering.output with depth := depth } }

theorem StartsLine.atDepth
    {rendering : Rendering η} {depth : Nat}
    (start : rendering.StartsLine depth) (other : Nat) :
    (rendering.atDepth other).StartsLine other :=
  ⟨start.atLineStart, rfl, start.style_eq⟩

/-- A rendering is known from one that it only appends to. -/
theorem OnlyAppends.eq_append
    {before after : Rendering η} {text : String}
    (appends : OnlyAppends before after text)
    (start : before.output.atLineStart = true) :
    after = before.append text := by
  obtain ⟨hook, ⟨style, level, written, atLineStart⟩, includes, log⟩ := after
  obtain ⟨textEq, lineStart, depthEq, styleEq, includesEq, hookEq, logEq⟩ :=
    appends
  have sameLineStart : atLineStart = before.output.atLineStart :=
    lineStart.trans start.symm
  have sameText : written = before.output.text ++ text := textEq
  have sameDepth : level = before.output.depth := depthEq
  have sameStyle : style = before.output.style := styleEq
  have sameIncludes : includes = before.includes := includesEq
  have sameHook : hook = before.hook := hookEq
  have sameLog : log = before.log := logEq
  rw [sameLineStart, sameText, sameDepth, sameStyle, sameIncludes, sameHook,
    sameLog]
  rfl

end Rendering

namespace Header

open Listing (Item)
open Rendering (OnlyAppends)

variable {η : Type}

def openingItems (options : Options) : List Item :=
  if options.generateLibraryNamespace then
    [⟨0, ""⟩, ⟨0, "namespace " ++ options.outputNamespace⟩, ⟨0, "\x7b"⟩]
  else
    []

def closingItems (options : Options) : List Item :=
  if options.generateLibraryNamespace then [⟨0, "\x7d"⟩] else []

theorem namespaceItems_eq (options : Options) (inside : List Item) :
    namespaceItems options inside =
      openingItems options ++ inside ++ closingItems options := by
  rw [namespaceItems, openingItems, closingItems]
  cases options.generateLibraryNamespace with
  | false => exact (List.append_nil inside).symm
  | true => rfl

theorem openNamespace_eq
    (options : Options) {rendering : Rendering η}
    (start : rendering.StartsLine 0) :
    openNamespace options rendering =
      (rendering.emit (openingItems options) []).atDepth
        (classDepth options) := by
  obtain ⟨wraps, name⟩ := options
  cases wraps with
  | false =>
      have sameDepth : rendering.output.depth = 0 := start.depth_eq
      simp [openNamespace, Options.libraryNamespace?, openingItems,
        classDepth, Rendering.atDepth, ← sameDepth]
  | true =>
      have emits :=
        (Rendering.emits_newLine (η := η) 0).comp <|
          Rendering.emits_writeLines 0 ["namespace " ++ name, "\x7b"]
      have opened :
          rendering.newLine.writeLines ["namespace " ++ name, "\x7b"] =
            rendering.emit
              [⟨0, ""⟩, ⟨0, "namespace " ++ name⟩, ⟨0, "\x7b"⟩] [] :=
        emits rendering start
      have deeper : rendering.output.depth + 1 = 1 :=
        congrArg (· + 1) start.depth_eq
      change
        (rendering.newLine.writeLines
          ["namespace " ++ name, "\x7b"]).pushIndent = _
      rw [opened]
      simp [openingItems, classDepth, Rendering.pushIndent,
        IndentedText.pushIndent, Rendering.atDepth, Rendering.emit, deeper]

theorem closeNamespace_eq
    (options : Options) {rendering : Rendering η}
    (start : rendering.StartsLine (classDepth options)) :
    closeNamespace options rendering =
      (rendering.atDepth 0).emit (closingItems options) [] := by
  obtain ⟨wraps, name⟩ := options
  cases wraps with
  | false =>
      have sameDepth : rendering.output.depth = 0 := start.depth_eq
      simp [closeNamespace, Options.libraryNamespace?, closingItems,
        Rendering.atDepth, ← sameDepth]
  | true =>
      have shallower : rendering.popIndent = rendering.atDepth 0 := by
        have depthEq : rendering.output.depth = 1 := start.depth_eq
        simp [Rendering.popIndent, IndentedText.popIndent,
          Rendering.atDepth, depthEq]
      change rendering.popIndent.writeLine "\x7d" = _
      rw [shallower]
      exact Rendering.emits_writeLine 0 "\x7d" _ (start.atDepth 0)

/-! ## The two sections -/

/-- Guard, include of the native header and opened namespace. -/
def middleItems (unit : CompilationUnit) (options : Options) : List Item :=
  (["#pragma once", "", "#include \"" ++ unit.fileName ++ "\""].map
      fun line => ⟨0, line⟩) ++
    openingItems options

/-- Classes and closed namespace. -/
def restItems
    (unit : CompilationUnit) (options : Options) (printer : TypePrinter) :
    List Item :=
  (emittedClasses unit).flatMap
      (classItems printer (classDepth options)) ++
    closingItems options

theorem headerItems_eq_sections
    (unit : CompilationUnit) (options : Options) (printer : TypePrinter) :
    headerItems unit options printer =
      (bannerLines.map fun line => ⟨0, line⟩) ++
        middleItems unit options ++ restItems unit options printer := by
  simp only [headerItems, topItems, middleItems, restItems,
    namespaceItems_eq, List.map_append, List.append_assoc]
  rfl

theorem write_middle
    (unit : CompilationUnit) (options : Options)
    {rendering : Rendering η} (start : rendering.StartsLine 0)
    (noIncludes : rendering.includes = .empty) :
    openNamespace options
        (writeIncludes unit (rendering.writeLine "#pragma once").newLine) =
      ((rendering.addInclude ⟨unit.fileName, .quoted⟩).emit
        (middleItems unit options) []).atDepth (classDepth options) := by
  let recorded := rendering.addInclude ⟨unit.fileName, .quoted⟩
  let guardItems : List Item := [⟨0, "#pragma once"⟩, ⟨0, ""⟩]
  have guardWritten :
      (rendering.writeLine "#pragma once").newLine =
        rendering.emit guardItems [] :=
    (Rendering.emits_writeLine 0 "#pragma once").comp
      (Rendering.emits_newLine 0) rendering start
  have ownInclude :
      recorded.includes.items = [⟨unit.fileName, .quoted⟩] := by
    change (rendering.includes.insert _).items = _
    rw [noIncludes]
    rfl
  have included :
      writeIncludes unit (rendering.emit guardItems []) =
        recorded.emit
          (guardItems ++
            [⟨0, "#include \"" ++ unit.fileName ++ "\""⟩]) [] := by
    have written := writeIncludes_eq_emit unit (start.emit guardItems [])
    have sameIncludes :
        ((rendering.emit guardItems []).addInclude
          ⟨unit.fileName, .quoted⟩).includes.items =
          [⟨unit.fileName, .quoted⟩] := ownInclude
    simp only [sameIncludes, List.map_cons, List.map_nil] at written
    rw [written]
    exact Rendering.emit_emit recorded guardItems _ [] []
  have startIncluded :
      (recorded.emit
        (guardItems ++
          [⟨0, "#include \"" ++ unit.fileName ++ "\""⟩]) []).StartsLine 0 :=
    ⟨start.atLineStart, start.depth_eq, start.style_eq⟩
  rw [guardWritten, included, openNamespace_eq options startIncluded,
    Rendering.emit_emit, List.append_nil]
  rfl

theorem write_rest
    (job : RenderJob) {rendering : Rendering η}
    (start : rendering.StartsLine (classDepth job.options)) :
    closeNamespace job.options (writeClasses job rendering) =
      (rendering.atDepth 0).emit
        (restItems job.unit job.options job.printer)
        ((emittedClasses job.unit).flatMap classEvents) := by
  have classesWritten :
      writeClasses job rendering =
        rendering.emit
          ((emittedClasses job.unit).flatMap
            (classItems job.printer (classDepth job.options)))
          ((emittedClasses job.unit).flatMap classEvents) :=
    emits_writeClasses job rendering start
  rw [classesWritten, closeNamespace_eq job.options (start.emit _ _)]
  have all :=
    (rendering.atDepth 0).emit_emit
      ((emittedClasses job.unit).flatMap
        (classItems job.printer (classDepth job.options)))
      (closingItems job.options)
      ((emittedClasses job.unit).flatMap classEvents) []
  rw [List.append_nil] at all
  exact all

/-- The rendering that is handed to a hook at the start of a header. -/
def renderingAtStart [Hook η] (unit : CompilationUnit) (hook : η) :
    Rendering η where
  hook := some hook
  output := .empty .standard
  includes := .empty
  log :=
    [.renderingUnit unit.fileName "h" true,
      .delegatingStart unit.fileName (Hook.name hook)]

/-- The rendering that is handed to a hook behind the opened namespaces, if
`startText` is what it has appended at the start. -/
def renderingBehindNamespaces
    [Hook η] (unit : CompilationUnit) (options : Options) (hook : η)
    (startText : String) : Rendering η where
  hook := some hook
  output :=
    { style := .standard
      depth := classDepth options
      text := startText ++ Listing.text (middleItems unit options)
      atLineStart := true }
  includes := IncludeSet.empty.insert ⟨unit.fileName, .quoted⟩
  log :=
    [.renderingUnit unit.fileName "h" true,
      .delegatingStart unit.fileName (Hook.name hook),
      .delegatingAfterNamespaces unit.fileName (Hook.name hook)]

/-! ## The run -/

/-- Body, includes and log of a header whose hook only appends text. -/
theorem renderUnit_hooked
    [Hook η] (unit : CompilationUnit) (options : Options)
    (printer : TypePrinter) (hooks : HookTable η) {hook : η}
    {startText innerText : String}
    (hooked : hooks.get? unit.fileName = some hook)
    (appendsAtStart :
      OnlyAppends (renderingAtStart unit hook)
        (Hook.onStart hook ⟨unit, options, printer, "h"⟩
          (renderingAtStart unit hook))
        startText)
    (appendsInside :
      OnlyAppends (renderingBehindNamespaces unit options hook startText)
        (Hook.onAfterNamespaces hook ⟨unit, options, printer, "h"⟩
          (renderingBehindNamespaces unit options hook startText))
        innerText) :
    renderUnit layout unit options printer hooks =
      (⟨unit.fileName, "h",
          startText ++ Listing.text (middleItems unit options) ++
            innerText ++ Listing.text (restItems unit options printer),
          IncludeSet.empty.insert ⟨unit.fileName, .quoted⟩⟩,
        [.renderingUnit unit.fileName "h" true,
            .delegatingStart unit.fileName (Hook.name hook),
            .delegatingAfterNamespaces unit.fileName (Hook.name hook)] ++
          (emittedClasses unit).flatMap classEvents) := by
  let job : RenderJob := ⟨unit, options, printer, "h"⟩
  let reported :=
    (Rendering.start (some hook)).report
      (.renderingUnit unit.fileName "h" true)
  let started := (renderingAtStart unit hook).append startText
  let opened :=
    openNamespace options
      (writeIncludes unit (started.writeLine "#pragma once").newLine)
  let inside := renderingBehindNamespaces unit options hook startText
  let resumed := inside.append innerText
  have startedEq :
      Hook.onStart hook job (renderingAtStart unit hook) = started :=
    appendsAtStart.eq_append rfl
  have resumedEq : Hook.onAfterNamespaces hook job inside = resumed :=
    appendsInside.eq_append rfl
  -- Up to the second emission point the hook has left its text and nothing
  -- else, so its second call finds the rendering that is described above.
  have openedEq :
      opened.report
          (.delegatingAfterNamespaces unit.fileName (Hook.name hook)) =
        inside := by
    have startsLine : started.StartsLine 0 := ⟨rfl, rfl, rfl⟩
    have middleWritten := write_middle unit options startsLine rfl
    change (openNamespace options _).report _ = _
    rw [middleWritten]
    have textEq : "" ++ startText = startText := String.empty_append
    simp [inside, renderingBehindNamespaces, started, renderingAtStart,
      Rendering.report, Rendering.atDepth, Rendering.emit,
      Rendering.addInclude, Rendering.append, IndentedText.empty, textEq]
  have hookKept : opened.hook = some hook :=
    congrArg Rendering.hook openedEq
  have handedOver : job.writeAfterNamespaces opened = resumed := by
    rw [RenderJob.writeAfterNamespaces, hookKept, ← resumedEq, ← openedEq]
  have restWritten :
      closeNamespace options (writeClasses job resumed) =
        (resumed.atDepth 0).emit (restItems unit options printer)
          ((emittedClasses unit).flatMap classEvents) :=
    write_rest job ⟨rfl, rfl, rfl⟩
  have generated :
      generate job reported =
        (resumed.atDepth 0).emit (restItems unit options printer)
          ((emittedClasses unit).flatMap classEvents) := by
    rw [← restWritten, ← handedOver]
    change
      closeNamespace options (writeClasses job (job.writeAfterNamespaces
        (openNamespace options (writeIncludes unit
          ((Hook.onStart hook job
            (renderingAtStart unit hook)).writeLine
              "#pragma once").newLine)))) = _
    rw [startedEq]
  have rendered :
      renderUnit layout unit options printer hooks =
        (job.finish (generate job reported),
          (generate job reported).log) := by
    rw [renderUnit, hooked]
    rfl
  rw [rendered, generated]
  rfl

/-- How a run with a hook that appends two texts differs from a run without a
hook.  Two sections are the same in both runs and do not depend on the hook.
The first text stands in the place of the banner, and the second one between
the sections, with the lines that the hook writes there at the depth of the
classes.  The includes and the reports on members that are left out are the
same, and the hook itself is reported twice. -/
structure ConfinesHook
    [Hook η] (unit : CompilationUnit) (options : Options)
    (printer : TypePrinter) (hook : η) (startText innerText : String)
    (plain customized : RenderedUnit × List LogEvent) : Prop where
  plain_body :
    plain.1.body =
      Listing.text (bannerLines.map fun line => ⟨0, line⟩) ++
        Listing.text (middleItems unit options) ++
          Listing.text (restItems unit options printer)
  hooked_body :
    customized.1.body =
      startText ++ Listing.text (middleItems unit options) ++
        innerText ++ Listing.text (restItems unit options printer)
  inner_lines :
    ∀ written : String,
      Hook.onAfterNamespaces hook ⟨unit, options, printer, "h"⟩
            (renderingBehindNamespaces unit options hook startText) =
          (renderingBehindNamespaces unit options hook startText).write
            written →
        innerText.toList.splitOn '\n' =
          (written.toList.splitOn '\n').map
            (Listing.indentLine
              (if options.generateLibraryNamespace then 1 else 0))
  includes_eq : customized.1.includes = plain.1.includes
  plain_log :
    plain.2 =
      .renderingUnit unit.fileName "h" false ::
        (emittedClasses unit).flatMap classEvents
  hooked_log :
    customized.2 =
      [.renderingUnit unit.fileName "h" true,
          .delegatingStart unit.fileName (Hook.name hook),
          .delegatingAfterNamespaces unit.fileName (Hook.name hook)] ++
        (emittedClasses unit).flatMap classEvents

/-- A text that is written at the start of a line is shown line by line behind
the indentation. -/
theorem lines_of_onlyAppends_write
    {before after : Rendering η} {written shown : String}
    (start : before.output.atLineStart = true)
    (style : before.output.style = .standard)
    (appends : OnlyAppends before after shown)
    (asWrite : after = before.write written) :
    shown.toList.splitOn '\n' =
      (written.toList.splitOn '\n').map
        (Listing.indentLine before.output.depth) := by
  obtain ⟨text, writtenText, lines⟩ :=
    before.output.write_lines start style written
  have sameText :
      before.output.text ++ shown = before.output.text ++ text := by
    rw [← appends.text_eq, ← writtenText, asWrite]
    rfl
  have sameChars := congrArg String.toList sameText
  rw [String.toList_append, String.toList_append] at sameChars
  rw [List.append_cancel_left sameChars, lines]

/-- A header is put together from two sections that do not depend on the hook.
Without a hook the banner stands in front of them; a hook that only appends
text puts its own texts in front of the sections and between them. -/
theorem hook_confined_to_emission_points
    [Hook η] (unit : CompilationUnit) (options : Options)
    (printer : TypePrinter) (plainHooks hooks : HookTable η) (hook : η)
    (startText innerText : String)
    (unhooked : plainHooks.get? unit.fileName = none)
    (hooked : hooks.get? unit.fileName = some hook)
    (appendsAtStart :
      OnlyAppends (renderingAtStart unit hook)
        (Hook.onStart hook ⟨unit, options, printer, "h"⟩
          (renderingAtStart unit hook))
        startText)
    (appendsInside :
      OnlyAppends (renderingBehindNamespaces unit options hook startText)
        (Hook.onAfterNamespaces hook ⟨unit, options, printer, "h"⟩
          (renderingBehindNamespaces unit options hook startText))
        innerText) :
    ConfinesHook unit options printer hook startText innerText
      (renderUnit layout unit options printer plainHooks)
      (renderUnit layout unit options printer hooks) := by
  rw [renderUnit_unhooked unit options printer plainHooks unhooked,
    renderUnit_hooked unit options printer hooks hooked appendsAtStart
      appendsInside]
  refine ⟨?plainBody, rfl, ?innerLines, rfl, rfl, rfl⟩
  case plainBody =>
    rw [headerItems_eq_sections, Listing.text_append, Listing.text_append]
  case innerLines =>
    intro written asWrite
    exact lines_of_onlyAppends_write rfl rfl appendsInside asWrite

/-- Writing lines from the start of a line only appends their text. -/
theorem onlyAppends_writeLines
    {rendering : Rendering η} {depth : Nat}
    (start : rendering.StartsLine depth) (lines : List String) :
    OnlyAppends rendering (rendering.writeLines lines)
      (Listing.text (lines.map fun line => ⟨depth, line⟩)) := by
  have written :
      rendering.writeLines lines =
        rendering.emit (lines.map fun line => ⟨depth, line⟩) [] :=
    Rendering.emits_writeLines depth lines rendering start
  rw [written]
  exact ⟨rfl, start.atLineStart, rfl, rfl, rfl, rfl, List.append_nil _⟩

/-- A hook for the sample unit, with a line at each emission point. -/
def sampleHook : LineHook :=
  ⟨"wrapper", ["// custom preamble"], ["using namespace System;"]⟩

def sampleHooks : HookTable LineHook :=
  (otherUnitHooks.register Geometry.unit.fileName sampleHook).2

theorem hook_confined_in_geometry_header :
    let options := Options.standard.withLibraryNamespace "Interop"
    let atStart := renderingAtStart Geometry.unit sampleHook
    let inside :=
      renderingBehindNamespaces Geometry.unit options sampleHook
        "// custom preamble\n"
    let job : RenderJob := ⟨Geometry.unit, options, .native, "h"⟩
    let plain :=
      renderUnit layout Geometry.unit options .native otherUnitHooks
    let customized :=
      renderUnit layout Geometry.unit options .native sampleHooks
    (otherUnitHooks.get? Geometry.unit.fileName = none ∧
        sampleHooks.get? Geometry.unit.fileName = some sampleHook) ∧
      OnlyAppends atStart (Hook.onStart sampleHook job atStart)
        "// custom preamble\n" ∧
      OnlyAppends inside (Hook.onAfterNamespaces sampleHook job inside)
        "    using namespace System;\n" ∧
      customized.1.body =
        "// custom preamble\n" ++
            Listing.text (middleItems Geometry.unit options) ++
          "    using namespace System;\n" ++
            Listing.text (restItems Geometry.unit options .native) ∧
      customized.1.includes = plain.1.includes := by
  intro options atStart inside job plain customized
  have startsAtStart : atStart.StartsLine 0 := ⟨rfl, rfl, rfl⟩
  have startsInside : inside.StartsLine 1 := ⟨rfl, rfl, rfl⟩
  have appendsAtStart :
      OnlyAppends atStart (Hook.onStart sampleHook job atStart)
        "// custom preamble\n" :=
    onlyAppends_writeLines startsAtStart ["// custom preamble"]
  have appendsInside :
      OnlyAppends inside (Hook.onAfterNamespaces sampleHook job inside)
        "    using namespace System;\n" :=
    onlyAppends_writeLines startsInside ["using namespace System;"]
  have confined :=
    hook_confined_to_emission_points Geometry.unit options .native
      otherUnitHooks sampleHooks sampleHook _ _ rfl rfl appendsAtStart
      appendsInside
  exact ⟨⟨rfl, rfl⟩, appendsAtStart, appendsInside, confined.hooked_body,
    confined.includes_eq⟩

end Header

end ManagedBinding
