import ManagedBinding.Proofs.Text.Separators
import ManagedBinding.Text.Blank
import ManagedBinding.Text.Scopes

/-!
# Paths and their segments

A path is cut at its separators from the left, and joining the segments gives
the path back.  Segments without colons are found again when they have been
joined.  The cut does not distribute over a separator between any two paths,
though: a colon at the end of the first path makes the separator begin one
character earlier, so the last segment loses this colon and the first segment
behind the separator starts with one.
-/

namespace ManagedBinding.Text

/-- Some character of the text is not blank. -/
def Visible (chars : List Char) : Prop :=
  ∃ char ∈ chars, isBlankChar char = false

instance (chars : List Char) : Decidable (Visible chars) :=
  List.decidableBEx (isBlankChar · = false) chars

theorem not_visible_iff (chars : List Char) :
    ¬ Visible chars ↔ chars.all isBlankChar = true := by
  rw [Visible, List.all_eq_true]
  simp only [not_exists, not_and, Bool.not_eq_false]

theorem not_visible_nil : ¬ Visible [] := by
  rintro ⟨char, member, _⟩
  exact absurd member List.not_mem_nil

theorem visible_colon_cons (rest : List Char) : Visible (':' :: rest) :=
  ⟨':', List.mem_cons_self, by decide⟩

theorem splitScopes_separator (rest : List Char) :
    splitScopes (':' :: ':' :: rest) = [] :: splitScopes rest :=
  rfl

theorem splitScopes_ne_nil (chars : List Char) : splitScopes chars ≠ [] := by
  fun_cases splitScopes chars <;> exact List.cons_ne_nil _ _

/-- Where no separator begins, a character goes to the first segment. -/
theorem splitScopes_cons
    {char : Char} {rest : List Char}
    (noSeparator : char = ':' → rest.head? ≠ some ':') :
    splitScopes (char :: rest) =
      (splitScopes rest).modifyHead (char :: ·) := by
  have notBoth (behind : List Char) :
      char = ':' → rest = ':' :: behind → False := by
    intro isColon isRest
    exact noSeparator isColon (congrArg List.head? isRest)
  rw [splitScopes.eq_3 char rest notBoth]
  cases parts : splitScopes rest with
  | nil => exact absurd parts (splitScopes_ne_nil rest)
  | cons first others => rfl

theorem intercalate_splitScopes (chars : List Char) :
    [':', ':'].intercalate (splitScopes chars) = chars := by
  fun_induction splitScopes chars with
  | case1 => rfl
  | case2 rest inductionHypothesis =>
      rw [List.intercalate_cons_of_ne_nil (splitScopes_ne_nil rest),
        inductionHypothesis]
      rfl
  | case3 char rest _ parts =>
      exact absurd parts (splitScopes_ne_nil rest)
  | case4 char rest _ first others parts inductionHypothesis =>
      rw [parts] at inductionHypothesis
      rw [List.intercalate_cons_cons_left, inductionHypothesis]

/-- Paths are texts with `::` for a separator. -/
theorem splitScopes_eq_cutAt (chars : List Char) :
    splitScopes chars = cutAt [':', ':'] chars := by
  induction chars using splitScopes.induct with
  | case1 => rfl
  | case2 rest inductionHypothesis =>
      rw [splitScopes_separator, inductionHypothesis]
      exact (cutAt_separator_append rest).symm
  | case3 char rest _ parts _ =>
      exact absurd parts (splitScopes_ne_nil rest)
  | case4 char rest notBoth _ _ _ inductionHypothesis =>
      have noSeparator : ¬ [':', ':'] <+: char :: rest := by
        rintro ⟨behind, shape⟩
        rw [List.cons_append, List.cons_append, List.nil_append,
          List.cons.injEq] at shape
        exact notBoth behind shape.1.symm shape.2.symm
      have noSecondColon : char = ':' → rest.head? ≠ some ':' := by
        intro isColon nextIsColon
        obtain ⟨behind, isRest⟩ := List.head?_eq_some_iff.mp nextIsColon
        exact notBoth behind isColon isRest
      rw [splitScopes_cons noSecondColon, inductionHypothesis,
        cutAt_cons_of_not_prefix noSeparator]

theorem parts_scopes (path : String) :
    parts "::" path = (splitScopes path.toList).map String.ofList := by
  rw [splitScopes_eq_cutAt]
  rfl

/-- The parts of a path are visible exactly if its segments are. -/
theorem forall_visible_parts_iff (path : String) :
    (∀ part ∈ parts "::" path, Visible part.toList) ↔
      ∀ segment ∈ splitScopes path.toList, Visible segment := by
  rw [parts_scopes, List.forall_mem_map]
  simp only [String.toList_ofList]

theorem parts_scopes_of_not_mem
    {path : String} (plain : ':' ∉ path.toList) :
    parts "::" path = [path] := by
  have separator : "::".toList = [':', ':'] := by
    decide
  rw [parts, separator, cutAt_of_not_mem plain, List.map_singleton,
    String.ofList_toList]

/-- Segments without colons are found again in the path that they make. -/
theorem splitScopes_intercalate
    {segments : List (List Char)} (nonempty : segments ≠ [])
    (plain : ∀ segment ∈ segments, ':' ∉ segment) :
    splitScopes ([':', ':'].intercalate segments) = segments := by
  rw [splitScopes_eq_cutAt, cutAt_intercalate nonempty plain]

/-- The segments from `last` on, when a separator and another path are put
behind it.  If `last` ends with a colon, the separator begins with this one. -/
def segmentsFrom (last rest : List Char) : List (List Char) :=
  if last.getLast? = some ':' then
    last.dropLast :: splitScopes (':' :: rest)
  else
    last :: splitScopes rest

theorem segmentsFrom_cons
    (char : Char) {last : List Char} (nonempty : last ≠ [])
    (rest : List Char) :
    segmentsFrom (char :: last) rest =
      (segmentsFrom last rest).modifyHead (char :: ·) := by
  obtain ⟨first, others, rfl⟩ := List.exists_cons_of_ne_nil nonempty
  rw [segmentsFrom, segmentsFrom, List.getLast?_cons_cons]
  split
  · rfl
  · rfl

/-- A separator between two paths changes at most the segments next to it. -/
theorem splitScopes_append_separator (chars rest : List Char) :
    ∃ front last,
      splitScopes chars = front ++ [last] ∧
        splitScopes (chars ++ ':' :: ':' :: rest) =
          front ++ segmentsFrom last rest := by
  induction chars using splitScopes.induct with
  | case1 => exact ⟨[], [], rfl, rfl⟩
  | case2 behind inductionHypothesis =>
      obtain ⟨front, last, cut, joined⟩ := inductionHypothesis
      refine ⟨[] :: front, last, ?_, ?_⟩
      · rw [splitScopes_separator, cut, List.cons_append]
      · exact congrArg ([] :: ·) joined
  | case3 char behind _ parts _ =>
      exact absurd parts (splitScopes_ne_nil behind)
  | case4 char behind notBoth _ _ _ inductionHypothesis =>
      obtain ⟨front, last, cut, joined⟩ := inductionHypothesis
      cases behind with
      | nil =>
          by_cases isColon : char = ':'
          · subst isColon
            exact ⟨[], [':'], rfl, rfl⟩
          · refine ⟨[], [char], ?_, ?_⟩
            · exact splitScopes_cons fun equality => absurd equality isColon
            · have lastChar : [char].getLast? ≠ some ':' := by
                simpa using isColon
              rw [segmentsFrom, if_neg lastChar, List.cons_append,
                splitScopes_cons fun equality => absurd equality isColon]
              rfl
      | cons next others =>
          have noSeparator (more : List Char) :
              char = ':' → (next :: more).head? ≠ some ':' := by
            intro isColon nextIsColon
            have next_eq : next = ':' := by simpa using nextIsColon
            exact notBoth others isColon (by rw [next_eq])
          rw [splitScopes_cons (noSeparator others), cut, List.cons_append,
            List.cons_append, splitScopes_cons (noSeparator _),
            ← List.cons_append, joined]
          cases front with
          | nil =>
              -- The whole of what stands behind the character is `last`.
              have whole := intercalate_splitScopes (next :: others)
              rw [cut, List.nil_append, List.intercalate_singleton] at whole
              have nonempty : last ≠ [] := by
                rw [whole]
                exact List.cons_ne_nil next others
              exact ⟨[], char :: last, rfl,
                (segmentsFrom_cons char nonempty rest).symm⟩
          | cons segment segments =>
              exact ⟨(char :: segment) :: segments, last, rfl, rfl⟩

/-- Behind segments without colons the separator begins where it stands. -/
theorem splitScopes_append_of_plain
    {chars : List Char} (plain : ∀ segment ∈ splitScopes chars, ':' ∉ segment)
    (rest : List Char) :
    splitScopes (chars ++ ':' :: ':' :: rest) =
      splitScopes chars ++ splitScopes rest := by
  obtain ⟨front, last, cut, joined⟩ :=
    splitScopes_append_separator chars rest
  have lastPlain : ':' ∉ last := by
    apply plain
    rw [cut]
    exact List.mem_append_right front (List.mem_singleton_self last)
  have noColonAtEnd : last.getLast? ≠ some ':' := by
    intro endsWithColon
    exact lastPlain (List.mem_of_getLast? endsWithColon)
  rw [joined, segmentsFrom, if_neg noColonAtEnd, cut, List.append_assoc]
  rfl

/-- A path that ends with a colon lets the separator begin too early. -/
example :
    splitScopes ("A:".toList ++ "::".toList ++ "B".toList) =
      ["A".toList, ":B".toList] := by
  decide

theorem visible_segments_colon_cons
    {rest : List Char} (plainStart : rest.head? ≠ some ':')
    (visible : ∀ segment ∈ splitScopes rest, Visible segment) :
    ∀ segment ∈ splitScopes (':' :: rest), Visible segment := by
  rw [splitScopes_cons fun _ => plainStart]
  obtain ⟨first, others, parts⟩ :=
    List.exists_cons_of_ne_nil (splitScopes_ne_nil rest)
  rw [parts, List.forall_mem_cons] at visible
  rw [parts, List.modifyHead_cons, List.forall_mem_cons]
  exact ⟨visible_colon_cons first, visible.2⟩

/-- A path whose segments are visible and without colons does not start with
one. -/
theorem head?_ne_colon
    {chars : List Char}
    (plain : ∀ segment ∈ splitScopes chars,
      Visible segment ∧ ':' ∉ segment) :
    chars.head? ≠ some ':' := by
  intro startsWithColon
  obtain ⟨rest, rfl⟩ := List.head?_eq_some_iff.mp startsWithColon
  by_cases isSeparator : rest.head? = some ':'
  · obtain ⟨behind, rfl⟩ := List.head?_eq_some_iff.mp isSeparator
    exact not_visible_nil (plain [] List.mem_cons_self).1
  · rw [splitScopes_cons fun _ => isSeparator] at plain
    obtain ⟨first, others, parts⟩ :=
      List.exists_cons_of_ne_nil (splitScopes_ne_nil rest)
    rw [parts, List.modifyHead_cons] at plain
    exact (plain (':' :: first) List.mem_cons_self).2 List.mem_cons_self

/-- A visible segment is blank in front of a separator only by the loss of its
colon. -/
theorem exists_blank_segmentsFrom_iff
    {last rest : List Char} (lastVisible : Visible last)
    (plainStart : rest.head? ≠ some ':')
    (visible : ∀ segment ∈ splitScopes rest, Visible segment) :
    (∃ segment ∈ segmentsFrom last rest, ¬ Visible segment) ↔
      ∃ blanks, last = blanks ++ [':'] ∧ ¬ Visible blanks := by
  rw [segmentsFrom]
  by_cases endsWithColon : last.getLast? = some ':'
  · obtain ⟨body, rfl⟩ := List.getLast?_eq_some_iff.mp endsWithColon
    rw [if_pos endsWithColon, List.dropLast_concat]
    constructor
    · rintro ⟨segment, member, blank⟩
      rcases List.mem_cons.mp member with isBody | inRest
      · exact ⟨body, rfl, isBody ▸ blank⟩
      · exact absurd
          (visible_segments_colon_cons plainStart visible segment inRest)
          blank
    · rintro ⟨blanks, same, blank⟩
      rw [List.append_cancel_right same]
      exact ⟨blanks, List.mem_cons_self, blank⟩
  · rw [if_neg endsWithColon]
    constructor
    · rintro ⟨segment, member, blank⟩
      rcases List.mem_cons.mp member with isLast | inRest
      · exact absurd lastVisible (isLast ▸ blank)
      · exact absurd (visible segment inRest) blank
    · rintro ⟨blanks, rfl, _⟩
      exact absurd List.getLast?_concat endsWithColon

/-- Two paths without blank segments have a blank segment between them only if
the last segment of the first one is a colon behind blanks. -/
theorem exists_blank_segment_append_iff
    {chars rest : List Char}
    (visible : ∀ segment ∈ splitScopes chars, Visible segment)
    (plainStart : rest.head? ≠ some ':')
    (visibleRest : ∀ segment ∈ splitScopes rest, Visible segment) :
    (∃ segment ∈ splitScopes (chars ++ ':' :: ':' :: rest),
        ¬ Visible segment) ↔
      ∃ front blanks, splitScopes chars = front ++ [blanks ++ [':']] ∧
        ¬ Visible blanks := by
  obtain ⟨front, last, cut, joined⟩ :=
    splitScopes_append_separator chars rest
  rw [cut, List.forall_mem_append] at visible
  have lastVisible : Visible last := visible.2 last List.mem_cons_self
  have atSeam :=
    exists_blank_segmentsFrom_iff lastVisible plainStart visibleRest
  rw [joined, cut]
  constructor
  · rintro ⟨segment, member, blank⟩
    rcases List.mem_append.mp member with inFront | fromLast
    · exact absurd (visible.1 segment inFront) blank
    · obtain ⟨blanks, isLast, notVisible⟩ :=
        atSeam.mp ⟨segment, fromLast, blank⟩
      exact ⟨front, blanks, by rw [isLast], notVisible⟩
  · rintro ⟨others, blanks, same, notVisible⟩
    have isLast : last = blanks ++ [':'] :=
      (List.append_singleton_inj.mp same).2
    obtain ⟨segment, member, blank⟩ :=
      atSeam.mpr ⟨blanks, isLast, notVisible⟩
    exact ⟨segment, List.mem_append_right front member, blank⟩

end ManagedBinding.Text
