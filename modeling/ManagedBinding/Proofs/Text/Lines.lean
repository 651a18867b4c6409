import ManagedBinding.Text.Wrap

/-!
# Lines and line feeds

A text can be cut between its line feeds, which are dropped, or behind them,
where they stay.  On texts in which every line is ended the two cuts agree,
and both distribute over the lines.
-/

namespace ManagedBinding.Text

theorem splitAtChar_eq_splitOn (separator : Char) (chars : List Char) :
    splitAtChar separator chars = chars.splitOn separator := by
  induction chars with
  | nil =>
      rfl
  | cons char rest inductionHypothesis =>
      rw [splitAtChar, List.splitOn_cons_eq_if_modifyHead,
        inductionHypothesis]
      by_cases equality : char = separator
      · rw [if_pos equality, if_pos (beq_iff_eq.mpr equality)]
      · have different : ¬ (char == separator) = true := by
          rw [beq_iff_eq]
          exact equality
        rw [if_neg equality, if_neg different]
        cases parts : rest.splitOn separator with
        | nil =>
            exact absurd parts (List.splitOn_ne_nil separator rest)
        | cons first others =>
            rfl

/-- The parts of a cut list hold members of the list, and none that it was cut
at. -/
theorem mem_and_not_of_mem_splitOnP
    {α : Type} {cutsAt : α → Bool} {tested : α} {members part : List α}
    (member : part ∈ members.splitOnP cutsAt) (inside : tested ∈ part) :
    tested ∈ members ∧ cutsAt tested = false := by
  induction members generalizing part with
  | nil =>
      rw [List.splitOnP_nil, List.mem_singleton] at member
      rw [member] at inside
      exact absurd inside List.not_mem_nil
  | cons first rest inductionHypothesis =>
      rw [List.splitOnP_cons_eq_if_modifyHead] at member
      by_cases cuts : cutsAt first = true
      · rw [if_pos cuts] at member
        rcases List.mem_cons.mp member with atHead | inRest
        · rw [atHead] at inside
          exact absurd inside List.not_mem_nil
        · have later := inductionHypothesis inRest inside
          exact ⟨List.mem_cons_of_mem first later.1, later.2⟩
      · rw [if_neg cuts] at member
        rw [Bool.not_eq_true] at cuts
        cases parts : rest.splitOnP cutsAt with
        | nil =>
            exact absurd parts (List.splitOnP_ne_nil cutsAt rest)
        | cons head others =>
            rw [parts] at member inductionHypothesis
            rcases List.mem_cons.mp member with atHead | inOthers
            · rw [atHead] at inside
              rcases List.mem_cons.mp inside with same | inHead
              · rw [same]
                exact ⟨List.mem_cons_self, cuts⟩
              · have later :=
                  inductionHypothesis List.mem_cons_self inHead
                exact ⟨List.mem_cons_of_mem first later.1, later.2⟩
            · have later :=
                inductionHypothesis
                  (List.mem_cons_of_mem head inOthers) inside
              exact ⟨List.mem_cons_of_mem first later.1, later.2⟩

theorem mem_and_ne_of_mem_splitOn
    {separator tested : Char} {chars part : List Char}
    (member : part ∈ chars.splitOn separator) (inside : tested ∈ part) :
    tested ∈ chars ∧ tested ≠ separator := by
  have found := mem_and_not_of_mem_splitOnP member inside
  exact ⟨found.1, beq_eq_false_iff_ne.mp found.2⟩

theorem not_mem_of_mem_splitOn
    {separator : Char} {chars part : List Char}
    (member : part ∈ chars.splitOn separator) :
    separator ∉ part := by
  intro inside
  exact (mem_and_ne_of_mem_splitOn member inside).2 rfl

theorem intercalate_concat_append
    (separator : List Char) (start : List (List Char))
    (last behind : List Char) :
    List.intercalate separator (start ++ [last ++ behind]) =
      List.intercalate separator (start ++ [last]) ++ behind := by
  induction start with
  | nil =>
      rw [List.nil_append, List.nil_append, List.intercalate_singleton,
        List.intercalate_singleton]
  | cons first rest inductionHypothesis =>
      have nonempty (part : List Char) : rest ++ [part] ≠ [] := by
        simp
      rw [List.cons_append, List.cons_append,
        List.intercalate_cons_of_ne_nil (nonempty _),
        List.intercalate_cons_of_ne_nil (nonempty _), inductionHypothesis]
      simp only [List.append_assoc]

theorem not_mem_of_splitOn_eq_singleton
    {chars part : List Char} (single : chars.splitOn '\n' = [part]) :
    '\n' ∉ chars := by
  have whole : List.intercalate ['\n'] (chars.splitOn '\n') = chars :=
    List.intercalate_splitOn '\n'
  rw [single, List.intercalate_singleton] at whole
  rw [← whole]
  exact not_mem_of_mem_splitOn (single ▸ List.mem_singleton_self part)

/-- What stands in front of a text is added to its first line, and what stands
behind it to its last one. -/
theorem splitOn_between
    {front behind chars : List Char}
    (frontUnbroken : '\n' ∉ front) (behindUnbroken : '\n' ∉ behind)
    {first last : List Char} {inner : List (List Char)}
    (parts : chars.splitOn '\n' = first :: (inner ++ [last])) :
    (front ++ chars ++ behind).splitOn '\n' =
      (front ++ first) :: (inner ++ [last ++ behind]) := by
  have partsUnbroken :
      ∀ part ∈ first :: (inner ++ [last]), '\n' ∉ part := by
    intro part member
    rw [← parts] at member
    exact not_mem_of_mem_splitOn member
  have nonempty (part : List Char) : inner ++ [part] ≠ [] := by
    simp
  have joined :
      List.intercalate ['\n']
          ((front ++ first) :: (inner ++ [last ++ behind])) =
        front ++ chars ++ behind := by
    have whole : List.intercalate ['\n'] (chars.splitOn '\n') = chars :=
      List.intercalate_splitOn '\n'
    rw [parts, List.intercalate_cons_of_ne_nil (nonempty last)] at whole
    rw [List.intercalate_cons_of_ne_nil (nonempty _),
      intercalate_concat_append, ← whole]
    simp only [List.append_assoc]
  rw [← joined]
  refine List.splitOn_intercalate '\n' ?_ (List.cons_ne_nil _ _)
  rw [List.forall_mem_cons, List.forall_mem_append,
    List.forall_mem_singleton] at partsUnbroken ⊢
  obtain ⟨firstUnbroken, innerUnbroken, lastUnbroken⟩ := partsUnbroken
  refine ⟨?_, innerUnbroken, ?_⟩
  · rw [List.mem_append, not_or]
    exact ⟨frontUnbroken, firstUnbroken⟩
  · rw [List.mem_append, not_or]
    exact ⟨lastUnbroken, behindUnbroken⟩

/-! ## Ended lines -/

/-- Every line of a list, followed by its line feed. -/
def endLines (lines : List (List Char)) : List Char :=
  lines.flatMap fun line => line ++ ['\n']

@[simp]
theorem endLines_nil : endLines [] = [] :=
  rfl

@[simp]
theorem endLines_cons (line : List Char) (rest : List (List Char)) :
    endLines (line :: rest) = line ++ '\n' :: endLines rest := by
  simp [endLines]

@[simp]
theorem endLines_append (upper lower : List (List Char)) :
    endLines (upper ++ lower) = endLines upper ++ endLines lower :=
  List.flatMap_append

/-- Cutting a text between its line feeds and ending every part adds one line
feed, behind the text. -/
theorem endLines_splitOn (chars : List Char) :
    endLines (chars.splitOn '\n') = chars ++ ['\n'] := by
  induction chars with
  | nil =>
      rfl
  | cons char rest inductionHypothesis =>
      rw [List.splitOn_cons_eq_if_modifyHead]
      by_cases equality : (char == '\n') = true
      · rw [if_pos equality, endLines_cons, inductionHypothesis,
          beq_iff_eq.mp equality]
        rfl
      · rw [if_neg equality]
        cases parts : rest.splitOn '\n' with
        | nil =>
            exact absurd parts (List.splitOn_ne_nil '\n' rest)
        | cons first others =>
            rw [parts, endLines_cons] at inductionHypothesis
            rw [List.modifyHead_cons, endLines_cons, List.cons_append,
              inductionHypothesis]
            rfl

theorem count_endLines
    {lines : List (List Char)} (unbroken : ∀ line ∈ lines, '\n' ∉ line) :
    (endLines lines).count '\n' = lines.length := by
  induction lines with
  | nil =>
      rfl
  | cons line rest inductionHypothesis =>
      rw [List.forall_mem_cons] at unbroken
      rw [endLines_cons, List.count_append, List.count_cons_self,
        List.count_eq_zero_of_not_mem unbroken.1,
        inductionHypothesis unbroken.2, List.length_cons, Nat.zero_add]

/-- A text has one line more than it has line feeds. -/
theorem length_splitOn (chars : List Char) :
    (chars.splitOn '\n').length = chars.count '\n' + 1 := by
  have partsUnbroken : ∀ part ∈ chars.splitOn '\n', '\n' ∉ part :=
    fun _ member => not_mem_of_mem_splitOn member
  rw [← count_endLines partsUnbroken, endLines_splitOn, List.count_append]
  rfl

/-- Ended lines are joined lines with one more line feed. -/
theorem endLines_eq_intercalate
    {lines : List (List Char)} (nonempty : lines ≠ []) :
    endLines lines = List.intercalate ['\n'] lines ++ ['\n'] := by
  induction lines with
  | nil =>
      exact absurd rfl nonempty
  | cons line rest inductionHypothesis =>
      by_cases last : rest = []
      · rw [last]
        simp
      · rw [endLines_cons, inductionHypothesis last,
          List.intercalate_cons_of_ne_nil last]
        simp

theorem ne_nil_of_mem_pieces {chars piece : List Char}
    (member : piece ∈ pieces chars) :
    piece ≠ [] := by
  induction chars generalizing piece with
  | nil =>
      exact absurd member List.not_mem_nil
  | cons char rest inductionHypothesis =>
      rw [pieces] at member
      by_cases equality : char = '\n'
      · rw [if_pos equality] at member
        rcases List.mem_cons.mp member with atHead | inRest
        · rw [atHead]
          exact List.cons_ne_nil char []
        · exact inductionHypothesis inRest
      · rw [if_neg equality] at member
        cases cut : pieces rest with
        | nil =>
            rw [cut, List.mem_singleton] at member
            rw [member]
            exact List.cons_ne_nil char []
        | cons first others =>
            rw [cut] at member inductionHypothesis
            rcases List.mem_cons.mp member with atHead | inOthers
            · rw [atHead]
              exact List.cons_ne_nil char first
            · exact inductionHypothesis
                (List.mem_cons_of_mem first inOthers)

/-- A line without line feeds is a piece of its own once it is ended. -/
theorem pieces_line_append
    {line : List Char} (unbroken : '\n' ∉ line) (rest : List Char) :
    pieces (line ++ '\n' :: rest) = (line ++ ['\n']) :: pieces rest := by
  induction line with
  | nil =>
      rw [List.nil_append, pieces, if_pos rfl]
      rfl
  | cons char others inductionHypothesis =>
      rw [List.mem_cons, not_or] at unbroken
      rw [List.cons_append, pieces, if_neg (Ne.symm unbroken.1),
        inductionHypothesis unbroken.2]
      rfl

/-- The pieces of a text of ended lines are the ended lines. -/
theorem pieces_endLines
    {lines : List (List Char)} (unbroken : ∀ line ∈ lines, '\n' ∉ line) :
    pieces (endLines lines) = lines.map fun line => line ++ ['\n'] := by
  induction lines with
  | nil =>
      rfl
  | cons line rest inductionHypothesis =>
      rw [List.forall_mem_cons] at unbroken
      rw [endLines_cons, pieces_line_append unbroken.1,
        inductionHypothesis unbroken.2, List.map_cons]

/-- Ended lines are known from their text. -/
theorem endLines_inj
    {left right : List (List Char)}
    (leftUnbroken : ∀ line ∈ left, '\n' ∉ line)
    (rightUnbroken : ∀ line ∈ right, '\n' ∉ line) :
    endLines left = endLines right ↔ left = right := by
  refine ⟨fun same => ?_, congrArg endLines⟩
  have samePieces := congrArg pieces same
  rw [pieces_endLines leftUnbroken, pieces_endLines rightUnbroken]
    at samePieces
  exact (List.map_inj_right fun _ _ => List.append_cancel_right).mp
    samePieces

/-- The pieces of a text hold its characters, and a line feed at most at their
ends. -/
theorem piece_shape {chars piece : List Char}
    (member : piece ∈ pieces chars) :
    ∃ line ending, piece = line ++ ending ∧ '\n' ∉ line ∧
      (ending = [] ∨ ending = ['\n']) := by
  induction chars generalizing piece with
  | nil =>
      exact absurd member List.not_mem_nil
  | cons char rest inductionHypothesis =>
      rw [pieces] at member
      by_cases equality : char = '\n'
      · rw [if_pos equality] at member
        rcases List.mem_cons.mp member with atHead | inRest
        · exact ⟨[], ['\n'], by rw [atHead, equality]; rfl,
            List.not_mem_nil, .inr rfl⟩
        · exact inductionHypothesis inRest
      · rw [if_neg equality] at member
        cases cut : pieces rest with
        | nil =>
            rw [cut, List.mem_singleton] at member
            refine ⟨[char], [], member, ?_, .inl rfl⟩
            rw [List.mem_singleton]
            exact Ne.symm equality
        | cons first others =>
            rw [cut] at member inductionHypothesis
            rcases List.mem_cons.mp member with atHead | inOthers
            · obtain ⟨line, ending, shape, unbroken, ended⟩ :=
                inductionHypothesis List.mem_cons_self
              refine ⟨char :: line, ending, ?_, ?_, ended⟩
              · rw [atHead, shape, List.cons_append]
              · rw [List.mem_cons, not_or]
                exact ⟨Ne.symm equality, unbroken⟩
            · exact inductionHypothesis
                (List.mem_cons_of_mem first inOthers)

/-- Without its line end, a piece holds no line feed. -/
theorem not_mem_dropLineEnd
    {line ending : List Char} (unbroken : '\n' ∉ line)
    (ended : ending = [] ∨ ending = ['\n']) :
    '\n' ∉ dropLineEnd (line ++ ending) := by
  have unbrokenReverse : '\n' ∉ line.reverse := by
    rw [List.mem_reverse]
    exact unbroken
  rcases ended with empty | lineFeed
  · have notLineFeed (rest : List Char) : line.reverse ≠ '\n' :: rest := by
      intro equality
      rw [equality] at unbrokenReverse
      exact unbrokenReverse List.mem_cons_self
    rw [empty, List.append_nil, dropLineEnd]
    split
    · next body equality =>
        exact absurd equality (notLineFeed ('\r' :: body))
    · next body _ equality =>
        exact absurd equality (notLineFeed body)
    · exact unbroken
  · rw [lineFeed, dropLineEnd, List.reverse_append]
    cases reversed : line.reverse with
    | nil =>
        exact List.not_mem_nil
    | cons char body =>
        rw [reversed, List.mem_cons, not_or] at unbrokenReverse
        have body_unbroken : '\n' ∉ body.reverse := by
          rw [List.mem_reverse]
          exact unbrokenReverse.2
        by_cases carriageReturn : char = '\r'
        · subst carriageReturn
          exact body_unbroken
        · have whole : '\n' ∉ (char :: body).reverse := by
            rw [← reversed, List.reverse_reverse]
            exact unbroken
          simpa [carriageReturn] using whole

theorem not_mem_of_mem_lines {chars line : List Char}
    (member : line ∈ lines chars) :
    '\n' ∉ line := by
  obtain ⟨piece, pieceMember, rfl⟩ := List.mem_map.mp member
  obtain ⟨start, ending, rfl, unbroken, ended⟩ := piece_shape pieceMember
  exact not_mem_dropLineEnd unbroken ended

end ManagedBinding.Text
