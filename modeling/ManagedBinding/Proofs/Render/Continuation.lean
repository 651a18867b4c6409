import ManagedBinding.Proofs.Render.OperationRun
import ManagedBinding.Render.Rendering
import Mathlib.Logic.Relation

/-!
# What the operations of a renderer can do

Everything that happens to a rendering happens through a few operations:
text and line ends, changes of the indentation, recorded includes, an attached
or detached hook, reports.  None of them takes anything back.  One operation,
and so every sequence of operations, keeps the text and the includes as they
are and only puts something behind them.

Which includes a sequence may record is a parameter: none for the writers of a
layout, any for a hook.
-/

namespace ManagedBinding.Rendering

variable {η β : Type} {recordable : Include → Prop}

inductive Operates (recordable : Include → Prop) :
    Rendering η → Rendering η → Prop
  | write (rendering : Rendering η) (text : String) :
      Operates recordable rendering (rendering.write text)
  | newLine (rendering : Rendering η) :
      Operates recordable rendering rendering.newLine
  | pushIndent (rendering : Rendering η) :
      Operates recordable rendering rendering.pushIndent
  | popIndent (rendering : Rendering η) :
      Operates recordable rendering rendering.popIndent
  | addInclude (rendering : Rendering η) (item : Include) :
      recordable item →
      Operates recordable rendering (rendering.addInclude item)
  | setHook (rendering : Rendering η) (hook : Option η) :
      Operates recordable rendering (rendering.setHook hook)
  | report (rendering : Rendering η) (event : LogEvent) :
      Operates recordable rendering (rendering.report event)

/-- The second rendering keeps what the first one has, under the same style of
indentation, and only recordable includes are new in it. -/
structure Extends
    (recordable : Include → Prop) (before after : Rendering η) : Prop where
  style_eq : after.output.style = before.output.style
  text_extends : ∃ added : String,
    after.output.text = before.output.text ++ added
  includes_extend : ∃ late : List Include,
    after.includes.items = before.includes.items ++ late ∧
      ∀ item ∈ late, recordable item

namespace Extends

theorem refl (rendering : Rendering η) :
    Extends recordable rendering rendering :=
  ⟨rfl, ⟨"", String.append_empty.symm⟩,
    ⟨[], (List.append_nil _).symm, fun _ member =>
      absurd member List.not_mem_nil⟩⟩

theorem trans {before between after : Rendering η}
    (upper : Extends recordable before between)
    (lower : Extends recordable between after) :
    Extends recordable before after := by
  obtain ⟨upperText, upperTextEq⟩ := upper.text_extends
  obtain ⟨lowerText, lowerTextEq⟩ := lower.text_extends
  obtain ⟨early, earlyEq, earlyRecordable⟩ := upper.includes_extend
  obtain ⟨late, lateEq, lateRecordable⟩ := lower.includes_extend
  refine ⟨lower.style_eq.trans upper.style_eq,
    ⟨upperText ++ lowerText, ?_⟩, ⟨early ++ late, ?_, ?_⟩⟩
  · rw [lowerTextEq, upperTextEq, String.append_assoc]
  · rw [lateEq, earlyEq, List.append_assoc]
  · intro item member
    rcases List.mem_append.mp member with isEarly | isLate
    · exact earlyRecordable item isEarly
    · exact lateRecordable item isLate

end Extends

theorem insert_items_extends (includes : IncludeSet) (item : Include) :
    ∃ late : List Include,
      (includes.insert item).items = includes.items ++ late ∧
        ∀ new ∈ late, new = item := by
  by_cases present : item ∈ includes.items
  · refine ⟨[], ?_, fun new member => absurd member List.not_mem_nil⟩
    rw [IncludeSet.insert, dif_pos present, List.append_nil]
  · refine ⟨[item], ?_, fun new member => List.mem_singleton.mp member⟩
    rw [IncludeSet.insert, dif_neg present]

/-- An operation takes nothing back. -/
theorem Operates.toExtends {before after : Rendering η}
    (operates : Operates recordable before after) :
    Extends recordable before after := by
  have unchanged : Extends recordable before before := .refl before
  obtain ⟨_, sameText, nothingNew⟩ := unchanged
  cases operates with
  | write text =>
      have laidOut := before.output.run_text_eq_layOut [.write text]
      refine ⟨IndentedText.perform_style before.output (.write text),
        ⟨String.ofList
          (IndentedText.layOut before.output.atLineStart
            (IndentedText.marks before.output [.write text])), ?_⟩,
        nothingNew⟩
      rw [← String.toList_inj, String.toList_append, String.toList_ofList]
      exact laidOut
  | newLine => exact ⟨rfl, ⟨"\n", rfl⟩, nothingNew⟩
  | pushIndent => exact ⟨rfl, sameText, nothingNew⟩
  | popIndent => exact ⟨rfl, sameText, nothingNew⟩
  | addInclude item allowed =>
      obtain ⟨late, lateEq, isItem⟩ :=
        insert_items_extends before.includes item
      refine ⟨rfl, sameText, ⟨late, lateEq, ?_⟩⟩
      intro new member
      rw [isItem new member]
      exact allowed
  | setHook hook => exact ⟨rfl, sameText, nothingNew⟩
  | report event => exact ⟨rfl, sameText, nothingNew⟩

/-- Operations lead from the first rendering to the second one. -/
def Continues (recordable : Include → Prop) :
    Rendering η → Rendering η → Prop :=
  Relation.ReflTransGen (Operates recordable)

namespace Continues

theorem refl (rendering : Rendering η) :
    Continues recordable rendering rendering :=
  Relation.ReflTransGen.refl

theorem trans {before between after : Rendering η}
    (upper : Continues recordable before between)
    (lower : Continues recordable between after) :
    Continues recordable before after :=
  Relation.ReflTransGen.trans upper lower

theorem step {before between after : Rendering η}
    (earlier : Continues recordable before between)
    (operates : Operates recordable between after) :
    Continues recordable before after :=
  Relation.ReflTransGen.tail earlier operates

/-- No sequence of operations takes anything back. -/
theorem toExtends {before after : Rendering η}
    (continues : Continues recordable before after) :
    Extends recordable before after := by
  induction continues with
  | refl =>
      exact .refl before
  | tail _ operates inductionHypothesis =>
      exact inductionHypothesis.trans operates.toExtends

/-- What may record nothing leaves the includes alone. -/
theorem includes_eq_of_silent {before after : Rendering η}
    (continues : Continues (fun _ => False) before after) :
    after.includes = before.includes := by
  obtain ⟨late, lateEq, impossible⟩ := continues.toExtends.includes_extend
  have noneLate : late = [] := by
    rw [List.eq_nil_iff_forall_not_mem]
    intro item member
    exact impossible item member
  rw [noneLate, List.append_nil] at lateEq
  exact IncludeSet.eq_of_items_eq lateEq

/-- One continuation after the other, for all members of a list. -/
theorem foldl {step : Rendering η → β → Rendering η}
    (continuesEach : ∀ (rendering : Rendering η) (member : β),
      Continues recordable rendering (step rendering member))
    (members : List β) (rendering : Rendering η) :
    Continues recordable rendering (members.foldl step rendering) := by
  induction members generalizing rendering with
  | nil =>
      exact .refl rendering
  | cons member rest inductionHypothesis =>
      exact (continuesEach rendering member).trans
        (inductionHypothesis (step rendering member))

theorem writeLine (rendering : Rendering η) (text : String) :
    Continues recordable rendering (rendering.writeLine text) :=
  ((refl rendering).step (.write rendering text)).step
    (.newLine (rendering.write text))

theorem writeLines (rendering : Rendering η) (lines : List String) :
    Continues recordable rendering (rendering.writeLines lines) :=
  foldl writeLine lines rendering

theorem writeSummary (rendering : Rendering η) (comment : String) :
    Continues recordable rendering (rendering.writeSummary comment) := by
  rw [Rendering.writeSummary]
  by_cases blank : Text.isBlank comment = true
  · rw [if_pos blank]
    exact .refl rendering
  · rw [if_neg blank]
    exact writeLines rendering _

theorem writeInlineSummary (rendering : Rendering η) (comment : String) :
    Continues recordable rendering
      (rendering.writeInlineSummary comment) := by
  rw [Rendering.writeInlineSummary]
  by_cases blank : Text.isBlank comment = true
  · rw [if_pos blank]
    exact .refl rendering
  · rw [if_neg blank]
    exact writeLine rendering _

end Continues

end ManagedBinding.Rendering

namespace ManagedBinding

/-- Hooks that act on a rendering through its operations alone. -/
class LawfulHook (η : Type) [Hook η] : Prop where
  onStart : ∀ (hook : η) (job : RenderJob) (rendering : Rendering η),
    Rendering.Continues (fun _ => True) rendering
      (Hook.onStart hook job rendering)
  onAfterNamespaces :
    ∀ (hook : η) (job : RenderJob) (rendering : Rendering η),
      Rendering.Continues (fun _ => True) rendering
        (Hook.onAfterNamespaces hook job rendering)

namespace RenderJob

variable {η : Type} [Hook η] [LawfulHook η]

theorem continues_writeStart
    (job : RenderJob) (rendering : Rendering η) :
    Rendering.Continues (fun _ => True) rendering
      (job.writeStart rendering) := by
  rw [writeStart]
  cases rendering.hook with
  | none => exact .writeLines rendering job.preamble
  | some hook =>
      exact ((Rendering.Continues.refl rendering).step
        (.report rendering _)).trans (LawfulHook.onStart hook job _)

theorem continues_writeAfterNamespaces
    (job : RenderJob) (rendering : Rendering η) :
    Rendering.Continues (fun _ => True) rendering
      (job.writeAfterNamespaces rendering) := by
  rw [writeAfterNamespaces]
  cases rendering.hook with
  | none => exact .refl rendering
  | some hook =>
      exact ((Rendering.Continues.refl rendering).step
        (.report rendering _)).trans
          (LawfulHook.onAfterNamespaces hook job _)

end RenderJob

end ManagedBinding
