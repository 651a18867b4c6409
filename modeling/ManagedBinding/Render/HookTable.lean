import ManagedBinding.Render.Rendering
import ManagedBinding.Text.Quoted

/-!
Hooks by the file name of the unit that they belong to, in the order in which
the file names were first registered.
-/

namespace ManagedBinding

/-- At most one hook for every file name. -/
structure HookTable (η : Type) where
  entries : List (String × η)
  nodup : (entries.map Prod.fst).Nodup

namespace HookTable

variable {η : Type}

def empty : HookTable η := ⟨[], List.nodup_nil⟩

/-- Put a hook in the place of the one for the same file name, or else behind
all others. -/
def replaceOrAdd (fileName : String) (hook : η) :
    List (String × η) → List (String × η)
  | [] => [(fileName, hook)]
  | (present, old) :: rest =>
      if present = fileName then
        (present, hook) :: rest
      else
        (present, old) :: replaceOrAdd fileName hook rest

/-- Replacing keeps the file names; adding puts the new one at the end. -/
theorem replaceOrAdd_names
    (fileName : String) (hook : η) (entries : List (String × η)) :
    (replaceOrAdd fileName hook entries).map Prod.fst =
      if fileName ∈ entries.map Prod.fst then
        entries.map Prod.fst
      else
        entries.map Prod.fst ++ [fileName] := by
  induction entries with
  | nil =>
      rfl
  | cons entry rest inductionHypothesis =>
      obtain ⟨present, old⟩ := entry
      by_cases equality : present = fileName
      · simp [replaceOrAdd, equality]
      · have different : fileName ≠ present := Ne.symm equality
        simp only [replaceOrAdd, if_neg equality, List.map_cons,
          inductionHypothesis, List.mem_cons, different, false_or]
        split <;> rfl

def get? (table : HookTable η) (fileName : String) : Option η :=
  table.entries.lookup fileName

/-- Attach a hook to a file name; the hook that it replaces, if any, comes
back with the table. -/
def register (table : HookTable η) (fileName : String) (hook : η) :
    Option η × HookTable η :=
  (table.get? fileName,
    { entries := replaceOrAdd fileName hook table.entries
      nodup := by
        rw [replaceOrAdd_names]
        split
        · exact table.nodup
        · next absent =>
            refine List.nodup_append.mpr
              ⟨table.nodup, List.pairwise_singleton _ _, ?_⟩
            intro earlier earlierMember last lastMember equality
            rw [List.mem_singleton] at lastMember
            rw [equality, lastMember] at earlierMember
            exact absent earlierMember })

def size (table : HookTable η) : Nat := table.entries.length

def isEmpty (table : HookTable η) : Bool := table.entries.isEmpty

/-- The file names and the names of their hooks, quoted, in braces. -/
def describe [Hook η] (table : HookTable η) : String :=
  let entryText := fun (entry : String × η) =>
    Text.quoted entry.1 ++ ": " ++ Text.quoted (Hook.name entry.2)
  "\x7b" ++ ", ".intercalate (table.entries.map entryText) ++ "\x7d"

end HookTable

end ManagedBinding
