import ManagedBinding.Model.Geometry
import ManagedBinding.Proofs.Header.Refinement
import ManagedBinding.Proofs.Render.Continuation

/-!
# The include block of a header

The include block is written behind the guard and in front of the namespaces.
It has one directive for each include that is recorded by then: those of the
hook's first emission point and the native header of the unit.  What the hook
records at its second emission point comes too late for the block and is only
handed over with the file.

The writers of the header act by operations of the renderer and record
nothing, so the block stays as it is once it has been written, and only the
hook can add to the includes.
-/

namespace ManagedBinding.Header

open Rendering (Continues)

variable {η : Type}

section Writers

variable {recordable : Include → Prop}

theorem continues_writeComment
    (rendering : Rendering η) (declaration : Declaration) :
    Continues recordable rendering
      (writeComment rendering declaration) := by
  rw [writeComment]
  cases declaration.comment with
  | none => exact .refl rendering
  | some comment => exact .writeSummary rendering comment

theorem continues_writeInlineComment
    (rendering : Rendering η) (declaration : Declaration) :
    Continues recordable rendering
      (writeInlineComment rendering declaration) := by
  rw [writeInlineComment]
  cases declaration.comment with
  | none => exact .refl rendering
  | some comment => exact .writeInlineSummary rendering comment

theorem continues_writeEligibleMethod
    (printer : TypePrinter) (owner : Class)
    (rendering : Rendering η) (method : Method) :
    Continues recordable rendering
      (writeEligibleMethod printer owner rendering method) := by
  rw [writeEligibleMethod, Rendering.admitsMethod]
  cases method.exclusion? owner with
  | none =>
      change Continues recordable rendering
        (writeMethod printer owner rendering method)
      rw [writeMethod_eq_writeLine]
      exact (continues_writeComment rendering method.declaration).trans
        (.writeLine _ _)
  | some reason =>
      exact (Continues.refl rendering).step (.report rendering _)

theorem continues_writeEligibleField
    (printer : TypePrinter) (owner : Class)
    (rendering : Rendering η) (field : Field) :
    Continues recordable rendering
      (writeEligibleField printer owner rendering field) := by
  rw [writeEligibleField, Rendering.admitsField]
  cases field.exclusion? with
  | none =>
      exact (continues_writeInlineComment rendering
        field.declaration).trans (.writeLine _ _)
  | some reason =>
      exact (Continues.refl rendering).step (.report rendering _)

theorem continues_writeEvent
    (printer : TypePrinter) (rendering : Rendering η) (event : Event) :
    Continues recordable rendering (writeEvent printer rendering event) :=
  (continues_writeComment rendering event.declaration).trans
    (.writeLines _ _)

theorem continues_writeMembers
    (printer : TypePrinter) (rendering : Rendering η) (owner : Class) :
    Continues recordable rendering (writeMembers printer rendering owner) :=
  ((Continues.foldl (continues_writeEligibleMethod printer owner)
    owner.methods rendering).trans
      (Continues.foldl (continues_writeEligibleField printer owner)
        owner.fields _)).trans
          (Continues.foldl (continues_writeEvent printer)
            (emittedEvents owner) _)

theorem continues_writeClass
    (printer : TypePrinter) (rendering : Rendering η) (owner : Class) :
    Continues recordable rendering (writeClass printer rendering owner) := by
  have opened :
      Continues recordable rendering
        ((writeComment rendering owner.declaration).writeLines
          [classHead owner, "\x7b", "public:"]).pushIndent :=
    ((continues_writeComment rendering owner.declaration).trans
      (.writeLines _ _)).step (.pushIndent _)
  exact ((opened.trans (continues_writeMembers printer _ owner)).step
    (.popIndent _)).trans (.writeLine _ _)

theorem continues_writeClasses
    (job : RenderJob) (rendering : Rendering η) :
    Continues recordable rendering (writeClasses job rendering) := by
  refine Continues.foldl ?_ (emittedClasses job.unit) rendering
  intro current owner
  exact ((Continues.refl current).step (.newLine current)).trans
    (continues_writeClass job.printer current.newLine owner)

theorem continues_openNamespace
    (options : Options) (rendering : Rendering η) :
    Continues recordable rendering (openNamespace options rendering) := by
  rw [openNamespace]
  cases options.libraryNamespace? with
  | none => exact .refl rendering
  | some name =>
      exact (((Continues.refl rendering).step
        (.newLine rendering)).trans (.writeLines _ _)).step (.pushIndent _)

theorem continues_closeNamespace
    (options : Options) (rendering : Rendering η) :
    Continues recordable rendering (closeNamespace options rendering) := by
  rw [closeNamespace]
  cases options.libraryNamespace? with
  | none => exact .refl rendering
  | some name =>
      exact ((Continues.refl rendering).step
        (.popIndent rendering)).trans (.writeLine _ _)

end Writers

/-! ## The block in a header -/

/-- The rendering of a header behind its first emission point. -/
def renderingBehindStart [Hook η]
    (unit : CompilationUnit) (options : Options) (printer : TypePrinter)
    (hooks : HookTable η) : Rendering η :=
  let hook := hooks.get? unit.fileName
  RenderJob.writeStart ⟨unit, options, printer, "h"⟩ <|
    (Rendering.start hook).report <|
      .renderingUnit unit.fileName "h" hook.isSome

/-- The text is the block of the directives of a set, one to a line, with
every line behind the indentation of the depth. -/
def IsIncludeBlock
    (includes : IncludeSet) (depth : Nat) (text : String) : Prop :=
  text.toList.splitOn '\n' =
    (includes.render.toList.splitOn '\n').map (Listing.indentLine depth)

/-- The guard stands behind the indentation if it starts a line, and an empty
line follows it. -/
theorem writeGuard_eq (output : IndentedText) :
    (output.writeLine "#pragma once").newLine =
      { output with
        text := output.text ++
          (if output.atLineStart then output.indentation else "") ++
            "#pragma once\n\n"
        atLineStart := true } := by
  have onePiece :
      Text.pieces "#pragma once".toList = ["#pragma once".toList] := by
    decide
  rw [IndentedText.writeLine, IndentedText.write, onePiece]
  cases start : output.atLineStart with
  | true =>
      simp [IndentedText.writePiece, IndentedText.newLine, start,
        ← String.toList_inj]
  | false =>
      simp [IndentedText.writePiece, IndentedText.newLine, start,
        ← String.toList_inj]

/-- The block is written from the start of a line, so all its directives are
indented alike. -/
theorem writeIncludes_block
    (unit : CompilationUnit) (rendering : Rendering η)
    (start : rendering.output.atLineStart = true)
    (standard : rendering.output.style = .standard) :
    ∃ shown : String,
      (writeIncludes unit rendering).output.text =
          rendering.output.text ++ shown ∧
        IsIncludeBlock (rendering.includes.insert ⟨unit.fileName, .quoted⟩)
          rendering.output.depth shown :=
  rendering.output.write_lines start standard
    (rendering.includes.insert ⟨unit.fileName, .quoted⟩).render

/-- The include block of a header shows the includes that are recorded up to
its place: those of the hook's first emission point and the native header of
the unit.  They are the first includes of the finished file.  Whatever comes
behind them has been recorded at the second emission point; if that is nothing,
the block shows all includes of the file. -/
theorem include_block_shows_earlier_includes
    [Hook η] [LawfulHook η] (unit : CompilationUnit) (options : Options)
    (printer : TypePrinter) (hooks : HookTable η) :
    let job : RenderJob := ⟨unit, options, printer, "h"⟩
    let started := renderingBehindStart unit options printer hooks
    let margin :=
      if started.output.atLineStart then started.output.indentation else ""
    let guarded := (started.writeLine "#pragma once").newLine
    let recorded := started.includes.insert ⟨unit.fileName, .quoted⟩
    let opened := openNamespace options (writeIncludes unit guarded)
    let rendered := (renderUnit layout unit options printer hooks).1
    ∃ (shown below : String) (late : List Include),
      rendered.body =
          started.output.text ++ margin ++ "#pragma once\n\n" ++
            shown ++ below ∧
        IsIncludeBlock recorded started.output.depth shown ∧
        opened.includes = recorded ∧
        rendered.includes = (job.writeAfterNamespaces opened).includes ∧
        rendered.includes.items = recorded.items ++ late ∧
        (late = [] →
          IsIncludeBlock rendered.includes started.output.depth shown) := by
  intro job started margin guarded recorded opened rendered
  have standard : started.output.style = .standard :=
    (job.continues_writeStart _).toExtends.style_eq
  have guardedOutput :
      guarded.output =
        { started.output with
          text := started.output.text ++ margin ++ "#pragma once\n\n"
          atLineStart := true } :=
    writeGuard_eq started.output
  have guardedStyle : guarded.output.style = .standard := by
    rw [guardedOutput]
    exact standard
  obtain ⟨shown, includedText, isBlock⟩ :=
    writeIncludes_block unit guarded rfl guardedStyle
  have includesOpened : opened.includes = recorded :=
    (continues_openNamespace options _).includes_eq_of_silent
  -- Behind the second emission point nothing is recorded any more.
  have ending (recordable : Include → Prop) :
      Continues recordable (job.writeAfterNamespaces opened)
        (closeNamespace options
          (writeClasses job (job.writeAfterNamespaces opened))) :=
    (continues_writeClasses job _).trans (continues_closeNamespace options _)
  have includesRendered :
      rendered.includes = (job.writeAfterNamespaces opened).includes :=
    (ending fun _ => False).includes_eq_of_silent
  obtain ⟨late, lateEq, _⟩ :=
    (job.continues_writeAfterNamespaces opened).toExtends.includes_extend
  have afterBlock :
      Continues (fun _ => True) (writeIncludes unit guarded)
        (closeNamespace options
          (writeClasses job (job.writeAfterNamespaces opened))) :=
    ((continues_openNamespace options _).trans
      (job.continues_writeAfterNamespaces opened)).trans (ending _)
  obtain ⟨below, belowEq⟩ := afterBlock.toExtends.text_extends
  have bodyEq :
      rendered.body = (writeIncludes unit guarded).output.text ++ below :=
    belowEq
  have itemsRendered : rendered.includes.items = recorded.items ++ late := by
    rw [includesRendered, lateEq, includesOpened]
  have sameDepth : guarded.output.depth = started.output.depth := by
    rw [guardedOutput]
  rw [sameDepth] at isBlock
  refine ⟨shown, below, late, ?_, isBlock, includesOpened,
    includesRendered, itemsRendered, ?_⟩
  · rw [bodyEq, includedText, guardedOutput]
  · intro noneLate
    rw [noneLate, List.append_nil] at itemsRendered
    rw [IncludeSet.eq_of_items_eq itemsRendered]
    exact isBlock

/-- A hook that records includes and writes nothing. -/
structure RecordingHook where
  name : String
  startIncludes : List Include
  innerIncludes : List Include
  deriving DecidableEq, Repr

instance : Hook RecordingHook where
  name := RecordingHook.name
  onStart hook _ rendering :=
    hook.startIncludes.foldl Rendering.addInclude rendering
  onAfterNamespaces hook _ rendering :=
    hook.innerIncludes.foldl Rendering.addInclude rendering

theorem continues_addIncludes
    (items : List Include) (rendering : Rendering η) :
    Continues (fun _ => True) rendering
      (items.foldl Rendering.addInclude rendering) := by
  refine Continues.foldl ?_ items rendering
  intro current item
  exact (Continues.refl current).step (.addInclude current item trivial)

instance : LawfulHook RecordingHook where
  onStart hook _ := continues_addIncludes hook.startIncludes
  onAfterNamespaces hook _ := continues_addIncludes hook.innerIncludes

/-- Hooks of the sample unit with an include at each emission point. -/
def recordingHooks : HookTable RecordingHook :=
  (HookTable.empty.register Geometry.unit.fileName
    ⟨"containers", [⟨"string", .angled⟩], [⟨"vector", .angled⟩]⟩).2

theorem include_block_of_geometry_header :
    LawfulHook RecordingHook ∧
      ∃ (shown below : String) (late : List Include),
        let rendered :=
          (renderUnit layout Geometry.unit
            (Options.standard.withLibraryNamespace "Interop") .native
            recordingHooks).1
        rendered.body = "#pragma once\n\n" ++ shown ++ below ∧
          IsIncludeBlock
            (.ofList [⟨"string", .angled⟩, ⟨"geometry.h", .quoted⟩])
            0 shown ∧
          rendered.includes.items =
            [⟨"string", .angled⟩, ⟨"geometry.h", .quoted⟩] ++ late := by
  obtain ⟨shown, below, late, body, isBlock, _, _, items, _⟩ :=
    include_block_shows_earlier_includes Geometry.unit
      (Options.standard.withLibraryNamespace "Interop") .native
      recordingHooks
  exact ⟨inferInstance, shown, below, late, body, isBlock, items⟩

/-- Hooks of an empty unit that record an include behind the namespaces. -/
def lateHooks : HookTable RecordingHook :=
  (HookTable.empty.register "a.h" ⟨"late", [], [⟨"vector", .angled⟩]⟩).2

/-- An include of the second emission point is handed over with the file, but
no part of its text is the block of all includes. -/
theorem late_include_has_no_directive :
    let rendered :=
      (renderUnit layout (.ofFile "a.h") .standard .native lateHooks).1
    ⟨"vector", .angled⟩ ∈ rendered.includes.items ∧
      ¬ ∃ (above shown below : String) (depth : Nat),
        rendered.body = above ++ shown ++ below ∧
          IsIncludeBlock rendered.includes depth shown := by
  intro rendered
  refine ⟨by decide, ?_⟩
  rintro ⟨above, shown, below, depth, bodyEq, isBlock⟩
  have noAngle : '<' ∉ rendered.body.toList := by
    decide
  have directive :
      Listing.indentLine depth "#include <vector>".toList ∈
        shown.toList.splitOn '\n' := by
    rw [isBlock]
    exact List.mem_map_of_mem (by decide)
  have inDirective :
      '<' ∈ Listing.indentLine depth "#include <vector>".toList :=
    List.mem_append_right _ (by decide)
  have inShown : '<' ∈ shown.toList :=
    (Text.mem_and_ne_of_mem_splitOn directive inDirective).1
  apply noAngle
  rw [bodyEq, String.toList_append, String.toList_append]
  exact List.mem_append_left _ (List.mem_append_right _ inShown)

end ManagedBinding.Header
