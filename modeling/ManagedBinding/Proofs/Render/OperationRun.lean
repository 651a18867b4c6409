import ManagedBinding.Proofs.Render.Writing
import Mathlib.Data.List.Basic

/-!
# Runs of operations on a growing text

A run is any sequence of writes, line ends and changes of the indentation.
Two descriptions of it are shown to agree with what the operations do:

* an automaton that reads one character at a time and puts the indentation in
  front of a character that starts a line without ending it;
* the list of written characters, each with the output as it was when its
  operation began, cut into lines at the line feeds.

The first says that only the sequence of characters and changes of level
matters, not how it is cut into operations.  The second says what every line
of the output looks like.
-/

namespace ManagedBinding

/-- What the automaton reads: a character, or a change of the level. -/
inductive Signal
  | char (char : Char)
  | deeper
  | shallower
  deriving DecidableEq, Repr

structure LineAutomaton where
  level : Nat
  atLineStart : Bool
  emitted : List Char
  deriving DecidableEq, Repr

namespace LineAutomaton

def start : LineAutomaton := ⟨0, true, []⟩

/-- One signal.  `unit` is the text of one level of indentation. -/
def step (unit : List Char) (state : LineAutomaton) : Signal → LineAutomaton
  | .char char =>
      let lead :=
        if state.atLineStart && char != '\n' then
          (List.replicate state.level unit).flatten
        else
          []
      { state with
        atLineStart := char == '\n'
        emitted := state.emitted ++ lead ++ [char] }
  | .deeper => { state with level := state.level + 1 }
  | .shallower => { state with level := state.level - 1 }

def run (unit : List Char) (signals : List Signal) : LineAutomaton :=
  signals.foldl (step unit) start

end LineAutomaton

namespace IndentedText

inductive Operation
  | write (text : String)
  | writeLine (text : String)
  | newLine
  | pushIndent
  | popIndent
  deriving DecidableEq, Repr

def perform (output : IndentedText) : Operation → IndentedText
  | .write text => output.write text
  | .writeLine text => output.writeLine text
  | .newLine => output.newLine
  | .pushIndent => output.pushIndent
  | .popIndent => output.popIndent

def run (output : IndentedText) (operations : List Operation) :
    IndentedText :=
  operations.foldl perform output

/-- The characters that an operation asks for, without indentation. -/
def Operation.written : Operation → List Char
  | .write text => text.toList
  | .writeLine text => text.toList ++ ['\n']
  | .newLine => ['\n']
  | .pushIndent => []
  | .popIndent => []

def Operation.signals : Operation → List Signal
  | .pushIndent => [.deeper]
  | .popIndent => [.shallower]
  | operation => operation.written.map .char

/-! ## Agreement with the automaton -/

/-- The state of the automaton that an output stands for. -/
def automaton (output : IndentedText) : LineAutomaton :=
  ⟨output.depth, output.atLineStart, output.text.toList⟩

@[simp]
theorem writeChar_style (output : IndentedText) (char : Char) :
    (output.writeChar char).style = output.style :=
  rfl

theorem automaton_writeChar (output : IndentedText) (char : Char) :
    (output.writeChar char).automaton =
      output.automaton.step output.style.step.toList (.char char) := by
  by_cases leads : (output.atLineStart && char != '\n') = true
  · simp [automaton, writeChar, LineAutomaton.step, leads,
      toList_indentation]
  · simp [automaton, writeChar, LineAutomaton.step, leads]

theorem foldl_writeChar_style (chars : List Char) (output : IndentedText) :
    (chars.foldl writeChar output).style = output.style := by
  induction chars generalizing output with
  | nil =>
      rfl
  | cons char rest inductionHypothesis =>
      rw [List.foldl_cons, inductionHypothesis, writeChar_style]

theorem automaton_foldl_writeChar
    (chars : List Char) (output : IndentedText) :
    (chars.foldl writeChar output).automaton =
      (chars.map Signal.char).foldl
        (LineAutomaton.step output.style.step.toList) output.automaton := by
  induction chars generalizing output with
  | nil =>
      rfl
  | cons char rest inductionHypothesis =>
      rw [List.foldl_cons, inductionHypothesis, writeChar_style,
        List.map_cons, List.foldl_cons, automaton_writeChar]

/-- An operation that writes puts down its characters one by one. -/
theorem perform_eq_foldl
    (output : IndentedText) (operation : Operation)
    (deeper : operation ≠ .pushIndent) (shallower : operation ≠ .popIndent) :
    output.perform operation =
      operation.written.foldl writeChar output := by
  cases operation with
  | write text => exact output.write_eq_foldl text
  | writeLine text => exact output.writeLine_eq_foldl text
  | newLine => exact output.newLine_eq_writeChar
  | pushIndent => exact absurd rfl deeper
  | popIndent => exact absurd rfl shallower

theorem perform_style (output : IndentedText) (operation : Operation) :
    (output.perform operation).style = output.style := by
  by_cases deeper : operation = .pushIndent
  · rw [deeper]
    rfl
  · by_cases shallower : operation = .popIndent
    · rw [shallower]
      rfl
    · rw [perform_eq_foldl output operation deeper shallower,
        foldl_writeChar_style]

/-- One operation takes the automaton through its signals. -/
theorem automaton_perform (output : IndentedText) (operation : Operation) :
    (output.perform operation).automaton =
      operation.signals.foldl
        (LineAutomaton.step output.style.step.toList) output.automaton := by
  by_cases deeper : operation = .pushIndent
  · rw [deeper]
    rfl
  · by_cases shallower : operation = .popIndent
    · rw [shallower]
      rfl
    · have signals :
          operation.signals = operation.written.map .char := by
        cases operation with
        | write text => rfl
        | writeLine text => rfl
        | newLine => rfl
        | pushIndent => exact absurd rfl deeper
        | popIndent => exact absurd rfl shallower
      rw [perform_eq_foldl output operation deeper shallower, signals,
        automaton_foldl_writeChar]

/-- A run takes the automaton through the signals of its operations. -/
theorem automaton_run (operations : List Operation) (output : IndentedText) :
    (output.run operations).automaton =
      (operations.flatMap Operation.signals).foldl
        (LineAutomaton.step output.style.step.toList) output.automaton := by
  induction operations generalizing output with
  | nil =>
      rfl
  | cons operation rest inductionHypothesis =>
      have later := inductionHypothesis (output.perform operation)
      rw [perform_style, automaton_perform] at later
      rw [List.flatMap_cons, List.foldl_append]
      exact later

theorem run_style (operations : List Operation) (output : IndentedText) :
    (output.run operations).style = output.style := by
  induction operations generalizing output with
  | nil =>
      rfl
  | cons operation rest inductionHypothesis =>
      have later := inductionHypothesis (output.perform operation)
      rw [perform_style] at later
      exact later

/-- Two outputs with one style that stand for one state of the automaton are
equal. -/
theorem eq_of_automaton_eq
    {left right : IndentedText} (sameStyle : left.style = right.style)
    (sameState : left.automaton = right.automaton) :
    left = right := by
  obtain ⟨style, depth, text, atLineStart⟩ := left
  obtain ⟨otherStyle, otherDepth, otherText, otherStart⟩ := right
  simp only [automaton, LineAutomaton.mk.injEq, String.toList_inj]
    at sameState
  obtain ⟨rfl, rfl, rfl⟩ := sameState
  rw [show style = otherStyle from sameStyle]

/-! ## Lines with their indentation -/

/-- A character that was asked for, with the output as it was when the
operation that wrote it began. -/
abbrev Mark := Char × IndentedText

def marks (output : IndentedText) : List Operation → List Mark
  | [] => []
  | operation :: rest =>
      operation.written.map (fun char => (char, output)) ++
        marks (output.perform operation) rest

def Mark.endsLine (mark : Mark) : Bool := mark.1 == '\n'

/-- What a run writes, line by line and without line feeds. -/
def markedLines (output : IndentedText) (operations : List Operation) :
    List (List Mark) :=
  (marks output operations).splitOnP Mark.endsLine

/-- What stands in front of a line: the indentation at the moment when its
first character was written, and nothing in front of an empty line. -/
def lead : List Mark → List Char
  | [] => []
  | (_, moment) :: _ => moment.indentation.toList

def shownLine (line : List Mark) : List Char :=
  lead line ++ line.map Prod.fst

/-- The characters of a run with their indentation, from the start of a line
or from inside one. -/
def layOut : Bool → List Mark → List Char
  | _, [] => []
  | atLineStart, (char, moment) :: rest =>
      (if atLineStart && char != '\n' then
        moment.indentation.toList
      else
        []) ++
        char :: layOut (char == '\n') rest

/-- Whether a line starts behind the marks. -/
def lineStartAfter (atLineStart : Bool) (written : List Mark) : Bool :=
  written.foldl (fun _ mark => mark.endsLine) atLineStart

theorem layOut_append
    (atLineStart : Bool) (upper lower : List Mark) :
    layOut atLineStart (upper ++ lower) =
      layOut atLineStart upper ++
        layOut (lineStartAfter atLineStart upper) lower := by
  induction upper generalizing atLineStart with
  | nil =>
      rfl
  | cons mark rest inductionHypothesis =>
      obtain ⟨char, moment⟩ := mark
      rw [List.cons_append, layOut, layOut, inductionHypothesis,
        List.append_assoc, List.cons_append]
      rfl

/-- Characters under an unchanged indentation are laid out as they are
written. -/
theorem foldl_writeChar_layOut
    (chars : List Char) {output moment : IndentedText}
    (sameLead : moment.indentation = output.indentation) :
    let written := chars.map fun char => (char, moment)
    (chars.foldl writeChar output).text.toList =
        output.text.toList ++ layOut output.atLineStart written ∧
      (chars.foldl writeChar output).atLineStart =
        lineStartAfter output.atLineStart written := by
  induction chars generalizing output with
  | nil =>
      exact ⟨(List.append_nil _).symm, rfl⟩
  | cons char rest inductionHypothesis =>
      have laterLead :
          moment.indentation = (output.writeChar char).indentation :=
        sameLead
      obtain ⟨laterText, laterStart⟩ := inductionHypothesis laterLead
      have charWritten :
          (output.writeChar char).text.toList =
            output.text.toList ++
              (if output.atLineStart && char != '\n' then
                moment.indentation.toList
              else
                []) ++ [char] := by
        rw [sameLead]
        by_cases leads : (output.atLineStart && char != '\n') = true
        · simp [writeChar, leads]
        · simp [writeChar, leads]
      constructor
      · rw [List.foldl_cons, laterText, charWritten, List.map_cons, layOut]
        simp only [List.append_assoc, List.singleton_append]
        rfl
      · rw [List.foldl_cons, laterStart]
        rfl

theorem perform_layOut (output : IndentedText) (operation : Operation) :
    let written := operation.written.map fun char => (char, output)
    (output.perform operation).text.toList =
        output.text.toList ++ layOut output.atLineStart written ∧
      (output.perform operation).atLineStart =
        lineStartAfter output.atLineStart written := by
  by_cases deeper : operation = .pushIndent
  · rw [deeper]
    exact ⟨(List.append_nil _).symm, rfl⟩
  · by_cases shallower : operation = .popIndent
    · rw [shallower]
      exact ⟨(List.append_nil _).symm, rfl⟩
    · rw [perform_eq_foldl output operation deeper shallower]
      exact foldl_writeChar_layOut operation.written rfl

/-- The text of a run is the layout of its marks. -/
theorem run_text_eq_layOut
    (operations : List Operation) (output : IndentedText) :
    (output.run operations).text.toList =
      output.text.toList ++
        layOut output.atLineStart (marks output operations) := by
  induction operations generalizing output with
  | nil =>
      exact (List.append_nil _).symm
  | cons operation rest inductionHypothesis =>
      obtain ⟨stepText, stepStart⟩ := output.perform_layOut operation
      have later := inductionHypothesis (output.perform operation)
      rw [stepText, stepStart] at later
      rw [marks, layOut_append, ← List.append_assoc]
      exact later

theorem intercalate_append_head
    (front first : List Char) (others : List (List Char)) :
    List.intercalate ['\n'] ((front ++ first) :: others) =
      front ++ List.intercalate ['\n'] (first :: others) := by
  cases others with
  | nil =>
      simp
  | cons next rest =>
      simp [List.intercalate_cons_cons]

/-- Line by line, a layout shows every line behind its lead; a layout that
begins inside a line shows the first line bare. -/
theorem layOut_eq_intercalate (written : List Mark) :
    ∃ first others,
      written.splitOnP Mark.endsLine = first :: others ∧
        layOut true written =
          List.intercalate ['\n']
            (shownLine first :: others.map shownLine) ∧
        layOut false written =
          List.intercalate ['\n']
            (first.map Prod.fst :: others.map shownLine) := by
  induction written with
  | nil =>
      exact ⟨[], [], rfl, rfl, rfl⟩
  | cons mark rest inductionHypothesis =>
      obtain ⟨char, moment⟩ := mark
      obtain ⟨first, others, cut, fromStart, fromInside⟩ :=
        inductionHypothesis
      by_cases ends : char = '\n'
      · have endsLine : Mark.endsLine (char, moment) = true :=
          beq_iff_eq.mpr ends
        have ended :
            layOut true rest =
              List.intercalate ['\n'] ((first :: others).map shownLine) :=
          fromStart
        refine ⟨[], first :: others, ?_, ?_, ?_⟩
        · rw [List.splitOnP_cons_eq_if_modifyHead, if_pos endsLine, cut]
        · rw [layOut, ends]
          simp [ended, List.intercalate_cons_cons, shownLine, lead]
        · rw [layOut, ends]
          simp [ended, List.intercalate_cons_cons]
      · have endsLine : ¬ Mark.endsLine (char, moment) = true := by
          rw [Mark.endsLine, beq_iff_eq]
          exact ends
        have inside : (char == '\n') = false := beq_false_of_ne ends
        refine ⟨(char, moment) :: first, others, ?_, ?_, ?_⟩
        · rw [List.splitOnP_cons_eq_if_modifyHead, if_neg endsLine, cut,
            List.modifyHead_cons]
        · have split :
              shownLine ((char, moment) :: first) =
                (moment.indentation.toList ++ [char]) ++
                  first.map Prod.fst := by
            simp [shownLine, lead]
          rw [split, intercalate_append_head, ← fromInside, layOut, inside]
          simp [bne, inside]
        · have split :
              ((char, moment) :: first).map Prod.fst =
                [char] ++ first.map Prod.fst := rfl
          rw [split, intercalate_append_head, ← fromInside, layOut, inside]
          simp

/-- Dropping the moments and cutting at the line feeds may be exchanged. -/
theorem splitOn_map_fst (written : List Mark) :
    (written.map Prod.fst).splitOn '\n' =
      (written.splitOnP Mark.endsLine).map (List.map Prod.fst) := by
  induction written with
  | nil =>
      rfl
  | cons mark rest inductionHypothesis =>
      rw [List.map_cons, List.splitOn_cons_eq_if_modifyHead,
        List.splitOnP_cons_eq_if_modifyHead, inductionHypothesis]
      by_cases ends : mark.endsLine = true
      · have endsChar : (mark.1 == '\n') = true := ends
        rw [if_pos ends, if_pos endsChar]
        rfl
      · have endsChar : ¬ (mark.1 == '\n') = true := ends
        rw [if_neg ends, if_neg endsChar]
        cases rest.splitOnP Mark.endsLine with
        | nil => rfl
        | cons first others => rfl

theorem marks_map_fst (operations : List Operation) (output : IndentedText) :
    (marks output operations).map Prod.fst =
      operations.flatMap Operation.written := by
  induction operations generalizing output with
  | nil =>
      rfl
  | cons operation rest inductionHypothesis =>
      rw [marks, List.map_append, inductionHypothesis, List.map_map,
        List.flatMap_cons]
      congr 1
      exact List.map_id _

/-- Indentation stays inside its line. -/
theorem indentation_unbroken (output : IndentedText) :
    '\n' ∉ output.indentation.toList := by
  have stepUnbroken : '\n' ∉ output.style.step.toList := by
    unfold IndentStyle.step
    split <;> decide
  rw [toList_indentation, List.mem_flatten]
  rintro ⟨unit, member, inside⟩
  rw [List.eq_of_mem_replicate member] at inside
  exact stepUnbroken inside

theorem length_indentation (output : IndentedText) :
    output.indentation.toList.length = output.indentWidth := by
  rw [toList_indentation, indentWidth, IndentStyle.width,
    List.length_flatten, List.map_replicate, List.sum_replicate_nat,
    String.length_toList]

theorem shownLine_unbroken
    {output : IndentedText} {operations : List Operation}
    {line : List Mark} (member : line ∈ markedLines output operations) :
    '\n' ∉ shownLine line := by
  have bareUnbroken : '\n' ∉ line.map Prod.fst := by
    intro inside
    obtain ⟨mark, markMember, isLineFeed⟩ := List.mem_map.mp inside
    have goesOn :=
      (Text.mem_and_not_of_mem_splitOnP member markMember).2
    rw [Mark.endsLine, isLineFeed] at goesOn
    exact absurd goesOn (by decide)
  have leadUnbroken : '\n' ∉ lead line := by
    cases line with
    | nil => exact List.not_mem_nil
    | cons first others => exact first.2.indentation_unbroken
  rw [shownLine, List.mem_append, not_or]
  exact ⟨leadUnbroken, bareUnbroken⟩

/-- The style of indentation is the same at every moment of a run. -/
theorem style_of_mem_marks
    {operations : List Operation} {output : IndentedText} {mark : Mark}
    (member : mark ∈ marks output operations) :
    mark.2.style = output.style := by
  induction operations generalizing output with
  | nil =>
      exact absurd member List.not_mem_nil
  | cons operation rest inductionHypothesis =>
      rcases List.mem_append.mp member with ofOperation | inRest
      · obtain ⟨char, _, rfl⟩ := List.mem_map.mp ofOperation
        rfl
      · rw [inductionHypothesis inRest, perform_style]

/-- The lines of a run from the empty text are its lines with their leads. -/
theorem splitOn_run_text (style : IndentStyle) (operations : List Operation) :
    ((empty style).run operations).text.toList.splitOn '\n' =
      (markedLines (empty style) operations).map shownLine := by
  obtain ⟨first, others, cut, fromStart, _⟩ :=
    layOut_eq_intercalate (marks (empty style) operations)
  have lines : markedLines (empty style) operations = first :: others := cut
  have laidOut :
      ((empty style).run operations).text.toList =
        List.intercalate ['\n'] ((first :: others).map shownLine) := by
    rw [run_text_eq_layOut]
    exact fromStart
  rw [laidOut, lines]
  refine List.splitOn_intercalate '\n' ?_ (List.cons_ne_nil _ _)
  intro shown shownMember
  obtain ⟨line, lineMember, rfl⟩ := List.mem_map.mp shownMember
  rw [← lines] at lineMember
  exact shownLine_unbroken lineMember

/-- Without their leads the lines of a run are what was written. -/
theorem drop_leads (output : IndentedText) (operations : List Operation) :
    let lines := markedLines output operations
    List.intercalate ['\n']
        (List.zipWith (fun line shown => shown.drop (lead line).length)
          lines (lines.map shownLine)) =
      operations.flatMap Operation.written := by
  intro lines
  have dropped :
      List.zipWith (fun line shown => shown.drop (lead line).length)
          lines (lines.map shownLine) =
        lines.map (List.map Prod.fst) := by
    rw [List.zipWith_map_right, List.zipWith_self]
    refine List.map_congr_left ?_
    intro line _
    rw [shownLine, List.drop_left]
  calc
    List.intercalate ['\n']
          (List.zipWith (fun line shown => shown.drop (lead line).length)
            lines (lines.map shownLine)) =
        List.intercalate ['\n'] (lines.map (List.map Prod.fst)) := by
      rw [dropped]
    _ = List.intercalate ['\n']
          (((marks output operations).map Prod.fst).splitOn '\n') := by
      rw [splitOn_map_fst]
      rfl
    _ = (marks output operations).map Prod.fst :=
      List.intercalate_splitOn '\n'
    _ = operations.flatMap Operation.written :=
      marks_map_fst operations output

/-- The output stands for the state of the automaton. -/
structure AgreesWith (output : IndentedText) (state : LineAutomaton) :
    Prop where
  text_eq : output.text.toList = state.emitted
  depth_eq : output.depth = state.level
  atLineStart_eq : output.atLineStart = state.atLineStart

/-- Only the characters and the changes of level count for the output of these
operations, not how a text is cut into writes. -/
structure IgnoresCuts
    (output : IndentedText) (style : IndentStyle)
    (operations : List Operation) : Prop where
  run_eq_of_signals :
    ∀ others : List Operation,
      others.flatMap Operation.signals =
          operations.flatMap Operation.signals →
        (empty style).run others = output
  write_write :
    ∀ left right : String,
      (output.write left).write right = output.write (left ++ right)

/-- Every line of the output is a written line behind its lead.  Without the
leads the lines are what was written, and a lead is the indentation of the
moment when the first character of its line was written, as long as the columns
of the indentation were then. -/
structure ShowsLines
    (output : IndentedText) (style : IndentStyle)
    (lines : List (List Mark)) (written : List Char) : Prop where
  lines_eq :
    output.text.toList.splitOn '\n' =
      lines.map fun line => lead line ++ line.map Prod.fst
  written_eq :
    List.intercalate ['\n']
        (List.zipWith (fun line shown => shown.drop (lead line).length)
          lines (output.text.toList.splitOn '\n')) =
      written
  lead_eq :
    ∀ (char : Char) (moment : IndentedText) (rest : List Mark),
      (char, moment) :: rest ∈ lines →
        lead ((char, moment) :: rest) =
          (List.replicate moment.depth style.step.toList).flatten
  lead_length :
    ∀ (char : Char) (moment : IndentedText) (rest : List Mark),
      (char, moment) :: rest ∈ lines →
        (lead ((char, moment) :: rest)).length = moment.indentWidth

theorem agreesWith_of_automaton_eq
    {output : IndentedText} {state : LineAutomaton}
    (same : output.automaton = state) : output.AgreesWith state := by
  subst same
  exact ⟨rfl, rfl, rfl⟩

theorem run_ignoresCuts (style : IndentStyle) (operations : List Operation) :
    ((empty style).run operations).IgnoresCuts style operations := by
  refine ⟨?_, fun left right => (write_append _ left right).symm⟩
  intro others sameSignals
  have sameStyle :
      ((empty style).run others).style =
        ((empty style).run operations).style := by
    rw [run_style, run_style]
  refine eq_of_automaton_eq sameStyle ?_
  rw [automaton_run, automaton_run, sameSignals]

theorem run_showsLines (style : IndentStyle) (operations : List Operation) :
    ((empty style).run operations).ShowsLines style
      (markedLines (empty style) operations)
      (operations.flatMap Operation.written) := by
  refine ⟨splitOn_run_text style operations, ?_, ?_, ?_⟩
  · rw [splitOn_run_text]
    exact drop_leads (empty style) operations
  · intro char moment rest member
    have inMarks :=
      (Text.mem_and_not_of_mem_splitOnP member List.mem_cons_self).1
    have momentStyle : moment.style = style := style_of_mem_marks inMarks
    rw [← momentStyle]
    exact moment.toList_indentation
  · intro char moment rest _
    exact moment.length_indentation

/-- From the empty text every run of operations ends in the state of the
automaton.  A text may be cut into writes anywhere, and every line is shown
behind the indentation of the moment when its first character was written, an
empty line behind nothing. -/
theorem run_agrees_with_automaton
    (style : IndentStyle) (operations : List Operation) :
    let output := (empty style).run operations
    output.AgreesWith
        (LineAutomaton.run style.step.toList
          (operations.flatMap Operation.signals)) ∧
      output.IgnoresCuts style operations ∧
      output.ShowsLines style (markedLines (empty style) operations)
        (operations.flatMap Operation.written) :=
  ⟨agreesWith_of_automaton_eq (automaton_run operations (empty style)),
    run_ignoresCuts style operations, run_showsLines style operations⟩

/-- A change of the indentation inside a line counts from the next line on. -/
example :
    ((empty .tab).run
      [.write "a", .pushIndent, .write "b\nc", .popIndent, .writeLine "d",
        .newLine, .write "e"]).text = "ab\n\tcd\n\ne" := by
  decide

end IndentedText

end ManagedBinding
