import ManagedBinding.Proofs.Include.Insertions
import ManagedBinding.Proofs.Text.Lines
import Mathlib.Data.List.Perm.Subperm

/-!
# Comparing sets of includes

Two sets of includes are compared in two ways.  As sets they are compared by
their members, so the order of the insertions does not matter.  In a generated
file they are seen through their directives, one to a line and in order.  If no
file name has a line feed, the lines are found again in the text, and a
directive tells its file name and its delimiters apart whatever characters the
name has: the first delimiter stands at a fixed place, and the second one at
the end of the line.
-/

namespace ManagedBinding

/-- The delimiter in front of a file name. -/
def IncludeStyle.opening : IncludeStyle → Char
  | .angled => '<'
  | .quoted => '"'

/-- The delimiter behind a file name. -/
def IncludeStyle.closing : IncludeStyle → Char
  | .angled => '>'
  | .quoted => '"'

theorem IncludeStyle.opening_injective :
    Function.Injective IncludeStyle.opening := by
  intro left right same
  cases left with
  | angled =>
      cases right with
      | angled => rfl
      | quoted => exact absurd same (by decide)
  | quoted =>
      cases right with
      | angled => exact absurd same (by decide)
      | quoted => rfl

namespace Include

theorem toList_directive (item : Include) :
    item.directive.toList =
      "#include ".toList ++
        item.style.opening :: (item.file.toList ++ [item.style.closing]) := by
  obtain ⟨file, style⟩ := item
  cases style with
  | angled => simp [directive, IncludeStyle.opening, IncludeStyle.closing]
  | quoted => simp [directive, IncludeStyle.opening, IncludeStyle.closing]

/-- A directive names one include, also if the file name has delimiters in
it. -/
theorem directive_injective : Function.Injective directive := by
  intro left right same
  have sameChars := congrArg String.toList same
  rw [toList_directive, toList_directive] at sameChars
  have behindKeyword := List.append_cancel_left sameChars
  have sameOpening : left.style.opening = right.style.opening :=
    (List.cons.inj behindKeyword).1
  have sameStyle : left.style = right.style :=
    IncludeStyle.opening_injective sameOpening
  have behindOpening := (List.cons.inj behindKeyword).2
  rw [sameStyle] at behindOpening
  have sameFile : left.file = right.file :=
    String.toList_inj.mp (List.append_cancel_right behindOpening)
  cases left
  cases right
  simp only at sameFile sameStyle
  rw [sameFile, sameStyle]

theorem directive_unbroken {item : Include}
    (unbroken : '\n' ∉ item.file.toList) :
    '\n' ∉ item.directive.toList := by
  have delimitersUnbroken :
      '\n' ≠ item.style.opening ∧ '\n' ≠ item.style.closing := by
    cases item.style with
    | angled => decide
    | quoted => decide
  rw [toList_directive]
  simp [delimitersUnbroken, unbroken]

end Include

namespace IncludeSet

variable {left right : IncludeSet}

/-- Sets without repetitions have the same members if they have the same size
and one of them contains the other. -/
theorem sameMembers_iff_perm (left right : IncludeSet) :
    left.sameMembers right = true ↔ left.items.Perm right.items := by
  rw [sameMembers, Bool.and_eq_true, beq_iff_eq, List.all_eq_true]
  simp only [contains, List.contains_iff_mem]
  constructor
  · rintro ⟨sameSize, included⟩
    have subperm : left.items.Subperm right.items :=
      left.nodup.subperm included
    exact subperm.perm_of_length_le sameSize.ge
  · intro permuted
    exact ⟨permuted.length_eq, fun item => permuted.mem_iff.mp⟩

theorem sameMembers_equivalence :
    Equivalence fun left right : IncludeSet =>
      left.sameMembers right = true := by
  simp only [sameMembers_iff_perm]
  exact ⟨fun set => .refl set.items, .symm, .trans⟩

/-- Whatever has been inserted, and in which order, decides about equality only
by the question which includes have come at all. -/
theorem sameMembers_iff_of_firstOccurrences
    {history otherHistory : List Include}
    (firsts : FirstOccurrences history left.items)
    (otherFirsts : FirstOccurrences otherHistory right.items) :
    left.sameMembers right = true ↔
      ∀ item, item ∈ history ↔ item ∈ otherHistory := by
  rw [sameMembers_iff_perm, List.perm_ext_iff_of_nodup left.nodup right.nodup]
  simp only [firsts.mem_iff, otherFirsts.mem_iff]

theorem toList_render (includes : IncludeSet) :
    includes.render.toList =
      Text.endLines
        (includes.items.map fun item => item.directive.toList) := by
  rw [render_eq_join, String.toList_join, Text.endLines, List.flatMap_map,
    List.flatMap_map]
  simp only [String.toList_append]
  rfl

/-- The items are known from the rendering, in their order, if no file name
breaks a line. -/
theorem render_inj_of_unbroken
    (leftUnbroken : ∀ item ∈ left.items, '\n' ∉ item.file.toList)
    (rightUnbroken : ∀ item ∈ right.items, '\n' ∉ item.file.toList) :
    left.render = right.render ↔ left.items = right.items := by
  have linesUnbroken (includes : IncludeSet)
      (unbroken : ∀ item ∈ includes.items, '\n' ∉ item.file.toList) :
      ∀ line ∈ includes.items.map fun item => item.directive.toList,
        '\n' ∉ line := by
    intro line member
    obtain ⟨item, itemMember, rfl⟩ := List.mem_map.mp member
    exact Include.directive_unbroken (unbroken item itemMember)
  have directivesInjective :
      Function.Injective fun item : Include => item.directive.toList := by
    intro item other same
    exact Include.directive_injective (String.toList_inj.mp same)
  rw [← String.toList_inj, toList_render, toList_render,
    Text.endLines_inj (linesUnbroken left leftUnbroken)
      (linesUnbroken right rightUnbroken),
    directivesInjective.list_map.eq_iff]

/-- Two sets are equal exactly if their items are permutations of each other,
which is an equivalence and depends on nothing but the includes that have been
inserted.  If no file name has a line feed, they have the same rendering
exactly if their items are the same in order; so sets with the same rendering
are equal. -/
theorem members_up_to_order_and_rendering_in_order :
    (∀ left right : IncludeSet,
        left.sameMembers right = true ↔ left.items.Perm right.items) ∧
      (Equivalence fun left right : IncludeSet =>
        left.sameMembers right = true) ∧
      (∀ history otherHistory : List Include,
        (ofList history).sameMembers (ofList otherHistory) = true ↔
          ∀ item, item ∈ history ↔ item ∈ otherHistory) ∧
      ∀ left right : IncludeSet,
        (∀ item ∈ left.items, '\n' ∉ item.file.toList) →
        (∀ item ∈ right.items, '\n' ∉ item.file.toList) →
          (left.render = right.render ↔ left.items = right.items) ∧
            (left.render = right.render →
              left.sameMembers right = true) := by
  refine ⟨sameMembers_iff_perm, sameMembers_equivalence, ?histories,
    ?renderings⟩
  case histories =>
    intro history otherHistory
    exact sameMembers_iff_of_firstOccurrences
      (firstOccurrences_ofList history) (firstOccurrences_ofList otherHistory)
  case renderings =>
    intro left right leftUnbroken rightUnbroken
    have inOrder := render_inj_of_unbroken leftUnbroken rightUnbroken
    refine ⟨inOrder, ?_⟩
    intro sameRendering
    rw [sameMembers_iff_perm, inOrder.mp sameRendering]

/-- File names that are made of delimiters.  The second set has the same
members as the first one and another rendering. -/
theorem delimiters_in_file_names :
    let left := ofList [⟨"a>", .angled⟩, ⟨"b\" <c", .quoted⟩]
    let right := ofList [⟨"b\" <c", .quoted⟩, ⟨"a>", .angled⟩]
    (∀ item ∈ left.items, '\n' ∉ item.file.toList) ∧
      (∀ item ∈ right.items, '\n' ∉ item.file.toList) ∧
      left.sameMembers right = true ∧ left.render ≠ right.render := by
  intro left right
  have leftUnbroken : ∀ item ∈ left.items, '\n' ∉ item.file.toList := by
    decide
  have rightUnbroken : ∀ item ∈ right.items, '\n' ∉ item.file.toList := by
    decide
  obtain ⟨upToOrder, _, _, renderings⟩ :=
    members_up_to_order_and_rendering_in_order
  have inOrder := (renderings left right leftUnbroken rightUnbroken).1
  have swapped : left.items.Perm right.items := .swap _ _ []
  have different : left.items ≠ right.items := by
    decide
  exact ⟨leftUnbroken, rightUnbroken, (upToOrder left right).mpr swapped,
    mt inOrder.mp different⟩

/-- A file name with a line feed may be read as two includes. -/
example :
    (ofList [⟨"a>\n#include <b", .angled⟩]).render =
      (ofList [⟨"a", .angled⟩, ⟨"b", .angled⟩]).render := by
  decide

end IncludeSet

end ManagedBinding
