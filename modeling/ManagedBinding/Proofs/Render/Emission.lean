import ManagedBinding.Proofs.Render.Writing
import ManagedBinding.Render.Rendering

/-!
# What a part of a rendering emits

`Emits depth write items events` says all about a writer that begins and ends
at the start of a line: from every rendering that starts a line at the depth,
`write` appends the items to the text and the events to the log and changes
nothing else.  Writers compose as their items and events concatenate, so the
layers above state what they emit and never look at the output again.
-/

namespace ManagedBinding.Rendering

open Listing (Item)

variable {η β : Type}

/-- The next character starts a line at the depth, under the standard
indentation. -/
structure StartsLine (rendering : Rendering η) (depth : Nat) : Prop where
  atLineStart : rendering.output.atLineStart = true
  depth_eq : rendering.output.depth = depth
  style_eq : rendering.output.style = .standard

/-- The rendering with items behind its text and events behind its log. -/
def emit
    (rendering : Rendering η) (items : List Item)
    (events : List LogEvent) : Rendering η :=
  { rendering with
    output :=
      { rendering.output with
        text := rendering.output.text ++ Listing.text items }
    log := rendering.log ++ events }

theorem StartsLine.emit
    {rendering : Rendering η} {depth : Nat}
    (start : rendering.StartsLine depth)
    (items : List Item) (events : List LogEvent) :
    (rendering.emit items events).StartsLine depth :=
  ⟨start.atLineStart, start.depth_eq, start.style_eq⟩

@[simp]
theorem emit_nil (rendering : Rendering η) :
    rendering.emit [] [] = rendering := by
  simp [emit]

theorem emit_emit
    (rendering : Rendering η) (upper lower : List Item)
    (earlier later : List LogEvent) :
    (rendering.emit upper earlier).emit lower later =
      rendering.emit (upper ++ lower) (earlier ++ later) := by
  simp [emit, String.append_assoc]

/-- The writer appends the items and the events wherever a line starts at the
depth, and changes nothing else. -/
def Emits
    (depth : Nat) (write : Rendering η → Rendering η)
    (items : List Item) (events : List LogEvent) : Prop :=
  ∀ rendering : Rendering η, rendering.StartsLine depth →
    write rendering = rendering.emit items events

namespace Emits

variable {depth : Nat}

theorem nothing : Emits depth (fun rendering : Rendering η => rendering) [] [] := by
  intro rendering _
  rw [emit_nil]

theorem comp
    {first second : Rendering η → Rendering η}
    {upper lower : List Item} {earlier later : List LogEvent}
    (emitsFirst : Emits depth first upper earlier)
    (emitsSecond : Emits depth second lower later) :
    Emits depth (fun rendering => second (first rendering))
      (upper ++ lower) (earlier ++ later) := by
  intro rendering start
  calc
    second (first rendering) = second (rendering.emit upper earlier) := by
      rw [emitsFirst rendering start]
    _ = (rendering.emit upper earlier).emit lower later :=
      emitsSecond _ (start.emit upper earlier)
    _ = rendering.emit (upper ++ lower) (earlier ++ later) :=
      emit_emit rendering upper lower earlier later

/-- One writer after the other, for all members of a list. -/
theorem foldl
    {step : Rendering η → β → Rendering η}
    {items : β → List Item} {events : β → List LogEvent} :
    ∀ members : List β,
      (∀ member ∈ members,
        Emits depth (fun rendering => step rendering member)
          (items member) (events member)) →
      Emits depth (fun rendering => members.foldl step rendering)
        (members.flatMap items) (members.flatMap events)
  | [], _ => nothing
  | member :: rest, emitsEach => by
      rw [List.forall_mem_cons] at emitsEach
      rw [List.flatMap_cons, List.flatMap_cons]
      exact emitsEach.1.comp (foldl rest emitsEach.2)

theorem foldl_silent
    {step : Rendering η → β → Rendering η} {items : β → List Item}
    (members : List β)
    (emitsEach : ∀ member ∈ members,
      Emits depth (fun rendering => step rendering member)
        (items member) []) :
    Emits depth (fun rendering => members.foldl step rendering)
      (members.flatMap items) [] := by
  have noEvents :
      members.flatMap (fun _ => ([] : List LogEvent)) = [] := by
    simp
  rw [← noEvents]
  exact foldl members emitsEach

/-- A writer one level deeper, between a push and a pop. -/
theorem indented
    {write : Rendering η → Rendering η}
    {items : List Item} {events : List LogEvent}
    (emitsInside : Emits (depth + 1) write items events) :
    Emits depth (fun rendering => (write rendering.pushIndent).popIndent)
      items events := by
  intro rendering start
  have inside : rendering.pushIndent.StartsLine (depth + 1) :=
    ⟨start.atLineStart, congrArg (· + 1) start.depth_eq, start.style_eq⟩
  calc
    (write rendering.pushIndent).popIndent =
        (rendering.pushIndent.emit items events).popIndent := by
      rw [emitsInside rendering.pushIndent inside]
    _ = rendering.emit items events := rfl

end Emits

theorem write_write
    (rendering : Rendering η) (left right : String) :
    (rendering.write left).write right = rendering.write (left ++ right) := by
  rw [write, write, write, ← IndentedText.write_append]

@[simp]
theorem write_empty (rendering : Rendering η) :
    rendering.write "" = rendering := by
  simp [write]

theorem write_writeLine
    (rendering : Rendering η) (left right : String) :
    (rendering.write left).writeLine right =
      rendering.writeLine (left ++ right) := by
  rw [writeLine, writeLine, write, IndentedText.writeLine,
    IndentedText.writeLine, IndentedText.write_append]

theorem writeLine_eq_write (rendering : Rendering η) (text : String) :
    rendering.writeLine text = rendering.write (text ++ "\n") := by
  rw [writeLine, write, IndentedText.writeLine_eq_write]

theorem emits_writeLine (depth : Nat) (text : String) :
    Emits depth (fun rendering : Rendering η => rendering.writeLine text)
      [⟨depth, text⟩] [] := by
  intro rendering start
  have depthEq := start.depth_eq
  subst depthEq
  have written :=
    IndentedText.writeLine_eq_item start.atLineStart start.style_eq text
  simp [writeLine, written, emit]

theorem emits_newLine (depth : Nat) :
    Emits depth (fun rendering : Rendering η => rendering.newLine)
      [⟨depth, ""⟩] [] := by
  intro rendering start
  calc
    rendering.newLine = rendering.writeLine "" := by
      rw [newLine, writeLine, IndentedText.writeLine,
        IndentedText.write_empty]
    _ = rendering.emit [⟨depth, ""⟩] [] :=
      emits_writeLine depth "" rendering start

theorem emits_writeLines (depth : Nat) (lines : List String) :
    Emits depth (fun rendering : Rendering η => rendering.writeLines lines)
      (lines.map fun line => ⟨depth, line⟩) [] := by
  rw [List.map_eq_flatMap]
  exact Emits.foldl_silent lines fun line _ => emits_writeLine depth line

private theorem write_directives
    (items : List Include) (written : String) (rendering : Rendering η) :
    rendering.write
        (items.foldl
          (fun text item => text ++ item.directive ++ "\n") written) =
      (rendering.write written).writeLines
        (items.map Include.directive) := by
  induction items generalizing written with
  | nil =>
      rfl
  | cons item rest inductionHypothesis =>
      have ended (text : String) :
          rendering.write (written ++ text ++ "\n") =
            (rendering.write written).writeLine text := by
        rw [write_writeLine, writeLine_eq_write]
      rw [List.foldl_cons, inductionHypothesis, ended]
      rfl

/-- The rendered set of includes is one line for each of its directives. -/
theorem write_render (rendering : Rendering η) (includes : IncludeSet) :
    rendering.write includes.render =
      rendering.writeLines (includes.items.map Include.directive) := by
  rw [IncludeSet.render, write_directives, write_empty]

theorem emits_report (depth : Nat) (event : LogEvent) :
    Emits depth (fun rendering : Rendering η => rendering.report event)
      [] [event] := by
  intro rendering _
  simp [report, emit]

end ManagedBinding.Rendering
