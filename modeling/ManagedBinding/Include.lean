/-!
Include directives and the set of them that a generated file needs. The set
keeps the order of first insertion, which is the order of the directives in
the generated text.
-/

namespace ManagedBinding

/-- The delimiters around the file name of an include directive. -/
inductive IncludeStyle
  | angled
  | quoted
  deriving DecidableEq, Repr

/-- One file that the generated text includes. -/
structure Include where
  file : String
  style : IncludeStyle
  deriving DecidableEq, Repr

/-- The directive as written in the generated text, without a line end. -/
def Include.directive (item : Include) : String :=
  match item.style with
  | .angled => "#include <" ++ item.file ++ ">"
  | .quoted => "#include \"" ++ item.file ++ "\""

/-- Includes in the order of their first insertion, each of them once. -/
structure IncludeSet where
  items : List Include
  nodup : items.Nodup
  deriving DecidableEq

namespace IncludeSet

theorem eq_of_items_eq
    {left right : IncludeSet} (sameItems : left.items = right.items) :
    left = right := by
  obtain ⟨items, nodup⟩ := left
  subst sameItems
  rfl

def empty : IncludeSet := ⟨[], List.nodup_nil⟩

def contains (includes : IncludeSet) (item : Include) : Bool :=
  includes.items.contains item

/-- Add an include behind the others, unless the set has it already. -/
def insert (includes : IncludeSet) (item : Include) : IncludeSet :=
  if absent : item ∈ includes.items then
    includes
  else
    ⟨includes.items ++ [item], by
      refine List.nodup_append.mpr
        ⟨includes.nodup, List.pairwise_singleton _ _, ?_⟩
      intro earlier earlierMember last lastMember equality
      rw [List.mem_singleton] at lastMember
      rw [equality, lastMember] at earlierMember
      exact absent earlierMember⟩

/-- Add an include and tell whether the set did not have it before. -/
def insertNew (includes : IncludeSet) (item : Include) :
    Bool × IncludeSet :=
  (!includes.contains item, includes.insert item)

/-- Insert the includes of a list one after the other. -/
def ofList (items : List Include) : IncludeSet :=
  items.foldl insert empty

def size (includes : IncludeSet) : Nat := includes.items.length

def isEmpty (includes : IncludeSet) : Bool := includes.items.isEmpty

/-- The two sets have the same members, in whatever order. -/
def sameMembers (left right : IncludeSet) : Bool :=
  left.size == right.size && left.items.all right.contains

/-- All directives in order, one to a line. -/
def render (includes : IncludeSet) : String :=
  includes.items.foldl
    (fun text item => text ++ item.directive ++ "\n") ""

end IncludeSet

end ManagedBinding
