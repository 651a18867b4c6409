import ManagedBinding.Proofs.Text.Lines

/-!
# Listings

A listing says where texts stand without saying how they are written: it is a
list of items, each of them a text at a depth.  Its text has no state.  Every
line of every item stands behind four spaces for each level of depth, and an
empty line stays empty.
-/

namespace ManagedBinding.Listing

/-- A text that stands at a depth of indentation. -/
structure Item where
  depth : Nat
  text : String
  deriving DecidableEq, Repr

/-- One line behind its indentation. -/
def indentLine (depth : Nat) (line : List Char) : List Char :=
  if line.isEmpty then
    []
  else
    List.replicate (4 * depth) ' ' ++ line

/-- The lines of an item, cut at its line feeds. -/
def Item.lines (item : Item) : List (List Char) :=
  (item.text.toList.splitOn '\n').map (indentLine item.depth)

/-- Items below each other, every line ended by a line feed. -/
def text (items : List Item) : String :=
  String.ofList (Text.endLines (items.flatMap Item.lines))

@[simp]
theorem text_nil : text [] = "" :=
  rfl

@[simp]
theorem text_append (upper lower : List Item) :
    text (upper ++ lower) = text upper ++ text lower := by
  rw [text, text, text, List.flatMap_append, Text.endLines_append,
    String.ofList_append]

/-- Every line of a text is indented except for the empty ones. -/
example : text [⟨1, "a\n\nb"⟩, ⟨0, ""⟩] = "    a\n\n    b\n\n" := by
  decide

theorem spaces_append_unbroken
    (depth : Nat) {line : List Char} (unbroken : '\n' ∉ line) :
    '\n' ∉ List.replicate (4 * depth) ' ' ++ line := by
  rw [List.mem_append, not_or]
  refine ⟨?_, unbroken⟩
  intro member
  exact absurd (List.eq_of_mem_replicate member) (by decide)

theorem indentLine_unbroken
    (depth : Nat) {line : List Char} (unbroken : '\n' ∉ line) :
    '\n' ∉ indentLine depth line := by
  unfold indentLine
  split
  · exact List.not_mem_nil
  · exact spaces_append_unbroken depth unbroken

/-- No line of an item holds a line feed. -/
theorem Item.lines_unbroken (item : Item) :
    ∀ line ∈ item.lines, '\n' ∉ line := by
  intro line member
  obtain ⟨part, partMember, rfl⟩ := List.mem_map.mp member
  exact indentLine_unbroken item.depth
    (Text.not_mem_of_mem_splitOn partMember)

/-- A text without line feeds is one line. -/
theorem Item.lines_of_unbroken
    (depth : Nat) {text : String} (unbroken : '\n' ∉ text.toList) :
    Item.lines ⟨depth, text⟩ = [indentLine depth text.toList] := by
  rw [Item.lines, List.splitOn_eq_singleton unbroken]
  rfl

/-- Listings with the same lines have the same text. -/
theorem text_eq_of_lines_eq
    {left right : List Item}
    (same : left.flatMap Item.lines = right.flatMap Item.lines) :
    text left = text right := by
  rw [text, text, same]

theorem indentLine_zero (line : List Char) : indentLine 0 line = line := by
  cases line <;> rfl

/-- Without indentation a listing is put together line by line. -/
theorem text_unindented (lines : List String) :
    text (lines.map fun line => ⟨0, line⟩) =
      String.join (lines.map (· ++ "\n")) := by
  have ended (line : String) :
      Text.endLines (Item.lines ⟨0, line⟩) = (line ++ "\n").toList := by
    have sameLines : Item.lines ⟨0, line⟩ = line.toList.splitOn '\n' := by
      rw [Item.lines, funext indentLine_zero, List.map_id']
    rw [sameLines, Text.endLines_splitOn, String.toList_append]
    rfl
  rw [← String.toList_inj, text, String.toList_ofList, String.toList_join]
  induction lines with
  | nil => rfl
  | cons line rest inductionHypothesis =>
      rw [List.map_cons, List.map_cons, List.flatMap_cons, List.flatMap_cons,
        Text.endLines_append, ended, inductionHypothesis]

end ManagedBinding.Listing
