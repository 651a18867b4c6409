import ManagedBinding.Proofs.Text.Lines
import Mathlib.Data.List.TakeWhile

/-!
# Runs between separators

A text that is cut at some of its characters falls into maximal runs of the
others.  The words of a paragraph are its runs between spaces, and what a
reader takes for the words of a comment are its runs between blanks.

`HasRuns` says which runs a text has without cutting it: the text is put
together from the runs and from separators, and behind a run there is a
separator or the end.  `runs` finds them, and `runs` of a text that is cut at a
separator are the runs of its parts.
-/

namespace ManagedBinding.Text

/-- The text consists of the runs, in this order, and of separators; no run is
empty or goes on behind its end. -/
inductive HasRuns (separates : Char → Bool) :
    List Char → List (List Char) → Prop
  | done :
      HasRuns separates [] []
  | separator {char : Char} {rest : List Char} {found : List (List Char)} :
      separates char = true →
      HasRuns separates rest found →
      HasRuns separates (char :: rest) found
  | run {run rest : List Char} {found : List (List Char)} :
      run ≠ [] →
      (∀ char ∈ run, separates char = false) →
      (∀ char ∈ rest.head?, separates char = true) →
      HasRuns separates rest found →
      HasRuns separates (run ++ rest) (run :: found)

/-- The maximal runs of characters that do not separate, in their order. -/
def runs (separates : Char → Bool) (chars : List Char) : List (List Char) :=
  (chars.splitOnP separates).filter fun run => !run.isEmpty

theorem words_eq_runs (paragraph : List Char) :
    words paragraph = runs (· == ' ') paragraph := by
  rw [words, splitAtChar_eq_splitOn, List.splitOn_eq_splitOnP]
  rfl

section Runs

variable {separates : Char → Bool}

@[simp]
theorem runs_nil : runs separates [] = [] :=
  rfl

theorem runs_append_cons
    {char : Char} (separator : separates char = true)
    (left right : List Char) :
    runs separates (left ++ char :: right) =
      runs separates left ++ runs separates right := by
  rw [runs, List.splitOnP_append_cons left right separator,
    List.filter_append]
  rfl

theorem runs_cons
    {char : Char} (separator : separates char = true) (rest : List Char) :
    runs separates (char :: rest) = runs separates rest :=
  runs_append_cons separator [] rest

theorem runs_eq_nil_of_all
    {chars : List Char}
    (separators : ∀ char ∈ chars, separates char = true) :
    runs separates chars = [] := by
  induction chars with
  | nil =>
      rfl
  | cons char rest inductionHypothesis =>
      rw [List.forall_mem_cons] at separators
      rw [runs_cons separators.1]
      exact inductionHypothesis separators.2

/-- Separators in front of a text belong to no run. -/
theorem runs_of_all_append
    {front : List Char} (chars : List Char)
    (separators : ∀ char ∈ front, separates char = true) :
    runs separates (front ++ chars) = runs separates chars := by
  induction front with
  | nil =>
      rfl
  | cons char rest inductionHypothesis =>
      rw [List.forall_mem_cons] at separators
      rw [List.cons_append, runs_cons separators.1]
      exact inductionHypothesis separators.2

/-- Separators at the end of a text belong to no run. -/
theorem runs_append_of_all
    (chars : List Char) {back : List Char}
    (separators : ∀ char ∈ back, separates char = true) :
    runs separates (chars ++ back) = runs separates chars := by
  cases back with
  | nil =>
      rw [List.append_nil]
  | cons char rest =>
      rw [List.forall_mem_cons] at separators
      rw [runs_append_cons separators.1, runs_eq_nil_of_all separators.2,
        List.append_nil]

/-- Texts that are joined by a separator keep their runs. -/
theorem runs_intercalate
    {char : Char} (separator : separates char = true)
    (parts : List (List Char)) :
    runs separates (List.intercalate [char] parts) =
      parts.flatMap (runs separates) := by
  induction parts with
  | nil =>
      rfl
  | cons part rest inductionHypothesis =>
      by_cases last : rest = []
      · rw [last, List.intercalate_singleton, List.flatMap_singleton]
      · rw [List.intercalate_cons_of_ne_nil last, List.append_assoc,
          List.singleton_append, runs_append_cons separator,
          inductionHypothesis, List.flatMap_cons]

theorem runs_eq_singleton
    {run : List Char} (nonempty : run ≠ [])
    (goesOn : ∀ char ∈ run, separates char = false) :
    runs separates run = [run] := by
  rw [runs, List.splitOnP_eq_singleton goesOn]
  simp [nonempty]

/-- A run that ends at a separator or at the end of the text is the first run
of the text. -/
theorem runs_run_append
    {run rest : List Char} (nonempty : run ≠ [])
    (goesOn : ∀ char ∈ run, separates char = false)
    (stops : ∀ char ∈ rest.head?, separates char = true) :
    runs separates (run ++ rest) = run :: runs separates rest := by
  cases rest with
  | nil =>
      rw [List.append_nil, runs_eq_singleton nonempty goesOn]
      rfl
  | cons char others =>
      have separator : separates char = true := stops char rfl
      rw [runs_append_cons separator, runs_cons separator,
        runs_eq_singleton nonempty goesOn]
      rfl

/-- No run is empty, and no run holds a separator. -/
theorem nonempty_and_goesOn_of_mem_runs
    {chars run : List Char} (member : run ∈ runs separates chars) :
    run ≠ [] ∧ ∀ char ∈ run, separates char = false := by
  rw [runs, List.mem_filter] at member
  constructor
  · intro empty
    have notEmpty := member.2
    rw [empty] at notEmpty
    exact absurd notEmpty (by decide)
  · intro char inside
    exact (mem_and_not_of_mem_splitOnP member.1 inside).2

/-- What is found by cutting are runs of the text. -/
theorem hasRuns_runs : ∀ chars : List Char,
    HasRuns separates chars (runs separates chars)
  | [] => .done
  | char :: rest => by
      by_cases separator : separates char = true
      · rw [runs_cons separator]
        exact .separator separator (hasRuns_runs rest)
      · rw [Bool.not_eq_true] at separator
        -- The first run reaches to the next separator.
        let goesOn := fun tested : Char => !separates tested
        let run := char :: rest.takeWhile goesOn
        let behind := rest.dropWhile goesOn
        have whole : char :: rest = run ++ behind := by
          rw [List.cons_append, List.takeWhile_append_dropWhile]
        have runGoesOn : ∀ tested ∈ run, separates tested = false := by
          intro tested member
          rcases List.mem_cons.mp member with first | later
          · rw [first]
            exact separator
          · have kept : goesOn tested = true := List.mem_takeWhile_imp later
            simpa [goesOn] using kept
        have stops : ∀ tested ∈ behind.head?, separates tested = true := by
          intro tested atHead
          have dropped := List.head?_dropWhile_not goesOn rest
          have first : (rest.dropWhile goesOn).head? = some tested := atHead
          rw [first] at dropped
          simpa [goesOn] using dropped
        have shorter : behind.length < (char :: rest).length :=
          Nat.lt_succ_of_le (List.dropWhile_suffix goesOn).length_le
        rw [whole,
          runs_run_append (List.cons_ne_nil _ _) runGoesOn stops]
        exact .run (List.cons_ne_nil _ _) runGoesOn stops
          (hasRuns_runs behind)
termination_by chars => chars.length
decreasing_by
  · exact Nat.lt_succ_self rest.length
  · exact shorter

theorem hasRuns_iff {chars : List Char} {found : List (List Char)} :
    HasRuns separates chars found ↔ runs separates chars = found := by
  constructor
  · intro derivation
    induction derivation with
    | done =>
        rfl
    | separator separator _ inductionHypothesis =>
        rw [runs_cons separator, inductionHypothesis]
    | run nonempty goesOn stops _ inductionHypothesis =>
        rw [runs_run_append nonempty goesOn stops, inductionHypothesis]
  · rintro rfl
    exact hasRuns_runs chars

theorem HasRuns.separates_of_nil
    {chars : List Char} {found : List (List Char)}
    (derivation : HasRuns separates chars found) (none : found = []) :
    ∀ char ∈ chars, separates char = true := by
  induction derivation with
  | done =>
      exact fun char member => absurd member List.not_mem_nil
  | separator separator _ inductionHypothesis =>
      exact List.forall_mem_cons.mpr ⟨separator, inductionHypothesis none⟩
  | run _ _ _ _ _ =>
      exact absurd none (List.cons_ne_nil _ _)

/-- With more separators, the runs of a text are those of its runs with
fewer. -/
theorem HasRuns.flatMap_runs
    {finer : Char → Bool} {chars : List Char} {found : List (List Char)}
    (derivation : HasRuns separates chars found)
    (more : ∀ char, separates char = true → finer char = true) :
    found.flatMap (runs finer) = runs finer chars := by
  induction derivation with
  | done =>
      rfl
  | separator separator _ inductionHypothesis =>
      rw [runs_cons (more _ separator), inductionHypothesis]
  | @run run rest found _ _ stops _ inductionHypothesis =>
      rw [List.flatMap_cons, inductionHypothesis]
      cases rest with
      | nil =>
          rw [runs_nil, List.append_nil, List.append_nil]
      | cons char others =>
          have separator : finer char = true := more char (stops char rfl)
          rw [runs_append_cons separator, runs_cons separator]

theorem runs_eq_nil_iff {chars : List Char} :
    runs separates chars = [] ↔ ∀ char ∈ chars, separates char = true :=
  ⟨(hasRuns_runs chars).separates_of_nil, runs_eq_nil_of_all⟩

end Runs

end ManagedBinding.Text
