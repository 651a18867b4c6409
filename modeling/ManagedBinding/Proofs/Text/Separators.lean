import Mathlib.Data.List.Basic

/-!
# Texts with separators

A text is cut at every occurrence of a separator, from the left, and the next
occurrence is looked for behind the last one.  If the first character of the
separator occurs in no part, no occurrence begins inside a part, so joined
parts are found again.
-/

namespace ManagedBinding.Text

/-- Cut a text at a separator.  The next `pending` characters still belong to
the occurrence of the separator that has been found last. -/
def cutBehind (separator : List Char) : Nat → List Char → List (List Char)
  | _, [] => [[]]
  | pending + 1, _ :: rest => cutBehind separator pending rest
  | 0, char :: rest =>
      if separator.isPrefixOf (char :: rest) then
        [] :: cutBehind separator (separator.length - 1) rest
      else
        (cutBehind separator 0 rest).modifyHead (char :: ·)

/-- Cut a text at every occurrence of a separator, from the left. -/
def cutAt (separator chars : List Char) : List (List Char) :=
  cutBehind separator 0 chars

/-- The parts of a text between the occurrences of a separator. -/
def parts (separator text : String) : List String :=
  (cutAt separator.toList text.toList).map String.ofList

section Steps

variable {separator : List Char}

theorem cutBehind_length_append (skipped rest : List Char) :
    cutBehind separator skipped.length (skipped ++ rest) =
      cutAt separator rest := by
  induction skipped with
  | nil => rfl
  | cons char others inductionHypothesis =>
      rw [List.length_cons, List.cons_append, cutBehind,
        inductionHypothesis]

/-- Where no separator begins, a character goes to the first part. -/
theorem cutAt_cons_of_not_prefix
    {char : Char} {rest : List Char}
    (noSeparator : ¬ separator <+: char :: rest) :
    cutAt separator (char :: rest) =
      (cutAt separator rest).modifyHead (char :: ·) := by
  rw [← List.isPrefixOf_iff_prefix] at noSeparator
  rw [cutAt, cutBehind, if_neg noSeparator, cutAt]

variable {first : Char} {others : List Char}

theorem cutAt_separator_append (rest : List Char) :
    cutAt (first :: others) (first :: others ++ rest) =
      [] :: cutAt (first :: others) rest := by
  have begins :
      (first :: others).isPrefixOf (first :: (others ++ rest)) = true := by
    rw [List.isPrefixOf_iff_prefix]
    exact List.prefix_append (first :: others) rest
  rw [List.cons_append, cutAt, cutBehind, if_pos begins, List.length_cons,
    Nat.add_sub_cancel, cutBehind_length_append]

theorem cutAt_cons_of_ne
    {char : Char} (different : char ≠ first) (rest : List Char) :
    cutAt (first :: others) (char :: rest) =
      (cutAt (first :: others) rest).modifyHead (char :: ·) := by
  apply cutAt_cons_of_not_prefix
  intro begins
  exact different (List.cons_prefix_cons.mp begins).1.symm

theorem cutAt_of_not_mem
    {part : List Char} (plain : first ∉ part) :
    cutAt (first :: others) part = [part] := by
  induction part with
  | nil => rfl
  | cons char rest inductionHypothesis =>
      rw [List.mem_cons, not_or] at plain
      rw [cutAt_cons_of_ne (Ne.symm plain.1),
        inductionHypothesis plain.2]
      rfl

theorem cutAt_part_append
    {part : List Char} (plain : first ∉ part) (rest : List Char) :
    cutAt (first :: others) (part ++ (first :: others ++ rest)) =
      part :: cutAt (first :: others) rest := by
  induction part with
  | nil => exact cutAt_separator_append rest
  | cons char more inductionHypothesis =>
      rw [List.mem_cons, not_or] at plain
      rw [List.cons_append, cutAt_cons_of_ne (Ne.symm plain.1),
        inductionHypothesis plain.2]
      rfl

/-- Parts without the first character of the separator are found again in the
text that they make. -/
theorem cutAt_intercalate
    {segments : List (List Char)} (nonempty : segments ≠ [])
    (plain : ∀ segment ∈ segments, first ∉ segment) :
    cutAt (first :: others) ((first :: others).intercalate segments) =
      segments := by
  induction segments with
  | nil => exact absurd rfl nonempty
  | cons segment rest inductionHypothesis =>
      rw [List.forall_mem_cons] at plain
      by_cases last : rest = []
      · rw [last, List.intercalate_singleton, cutAt_of_not_mem plain.1]
      · rw [List.intercalate_cons_of_ne_nil last, List.append_assoc,
          cutAt_part_append plain.1, inductionHypothesis last plain.2]

end Steps

/-- A joined text holds the characters of its parts and of the separator. -/
theorem mem_or_mem_of_mem_intercalate
    {separator : List Char} {segments : List (List Char)} {char : Char}
    (inside : char ∈ separator.intercalate segments) :
    char ∈ separator ∨ ∃ segment ∈ segments, char ∈ segment := by
  induction segments with
  | nil => exact absurd inside List.not_mem_nil
  | cons segment rest inductionHypothesis =>
      by_cases last : rest = []
      · rw [last, List.intercalate_singleton] at inside
        exact .inr ⟨segment, List.mem_cons_self, inside⟩
      · rw [List.intercalate_cons_of_ne_nil last, List.append_assoc,
          List.mem_append, List.mem_append] at inside
        rcases inside with inSegment | inSeparator | inRest
        · exact .inr ⟨segment, List.mem_cons_self, inSegment⟩
        · exact .inl inSeparator
        · rcases inductionHypothesis inRest with inSeparator | later
          · exact .inl inSeparator
          · obtain ⟨listed, listedMember, inListed⟩ := later
            exact .inr
              ⟨listed, List.mem_cons_of_mem segment listedMember, inListed⟩

theorem parts_intercalate
    {separator : String} {first : Char} {others : List Char}
    (shape : separator.toList = first :: others)
    {texts : List String} (nonempty : texts ≠ [])
    (plain : ∀ text ∈ texts, first ∉ text.toList) :
    parts separator (separator.intercalate texts) = texts := by
  have segmentsNonempty : texts.map String.toList ≠ [] := by
    simpa using nonempty
  have segmentsPlain :
      ∀ segment ∈ texts.map String.toList, first ∉ segment := by
    intro segment member
    obtain ⟨text, textMember, rfl⟩ := List.mem_map.mp member
    exact plain text textMember
  rw [parts, String.toList_intercalate, shape,
    cutAt_intercalate segmentsNonempty segmentsPlain, List.map_map]
  simp

end ManagedBinding.Text
