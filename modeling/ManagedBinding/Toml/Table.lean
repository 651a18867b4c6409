import ManagedBinding.Toml.Scalar
import ManagedBinding.Toml.Span

/-!
Tables and how they grow. A table may be written in pieces, but only in the
way in which it was begun: dotted keys do not extend a table with a header of
its own, a header does not reopen a table made by dotted keys, and inline
tables and arrays are closed.
-/

namespace ManagedBinding.Toml

/-- A part of a key, and where it is written. -/
structure Key where
  name : String
  span : Span
  deriving DecidableEq, Repr

/-- How a table has come to be: by a header of its own, as part of the path of
another header, as part of a dotted key, or in braces. -/
inductive TableOrigin
  | header
  | headerPath
  | dottedKey
  | inline
  deriving DecidableEq, Repr

/-- What stands under a key, and where it is written. -/
inductive Item
  | scalar (span : Span) (value : Scalar)
  | array (span : Span) (items : List Item)
  | tableArray (span : Span) (tables : List (List (Key × Item)))
  | table
      (span : Span) (origin : TableOrigin) (entries : List (Key × Item))
  deriving Repr

/-- The entries of a table, in the order in which they were made. -/
abbrev Entries := List (Key × Item)

def Item.span : Item → Span
  | .scalar span _ => span
  | .array span _ => span
  | .tableArray span _ => span
  | .table span _ _ => span

namespace Entries

def find? (entries : Entries) (name : String) : Option Item :=
  (List.find? (fun entry => entry.1.name == name) entries).map Prod.snd

/-- Put another item under a name that has one; its key stays as it is. -/
def replace (entries : Entries) (name : String) (item : Item) : Entries :=
  List.map (fun entry =>
    if entry.1.name = name then (entry.1, item) else entry) entries

def erase (entries : Entries) (name : String) : Entries :=
  List.filter (fun entry => entry.1.name != name) entries

/-- Add an item under a new name. -/
def add? (entries : Entries) (key : Key) (item : Item) : Option Entries :=
  if (entries.find? key.name).isSome then
    none
  else
    some (entries ++ [(key, item)])

/-- Change the last member of a list. -/
def changeLast? {α : Type} (change : α → Option α) (items : List α) :
    Option (List α) := do
  let last ← items.getLast?
  return items.dropLast ++ [← change last]

/-- Follow a path of keys from a table and change the table at its end. Tables
on the way that are missing come to be with origin `missing`; the last table
of an array of tables stands for the array. -/
def changeAt?
    (missing : TableOrigin)
    (change : TableOrigin → Entries → Option Entries) :
    TableOrigin → List Key → Entries → Option Entries
  | origin, [], entries => change origin entries
  | _, key :: path, entries =>
      let follow := fun (origin : TableOrigin) (inner : Entries) =>
        changeAt? missing change origin path inner
      match entries.find? key.name with
      | none => do
          let made ← follow missing []
          return entries ++ [(key, .table key.span missing made)]
      | some (.table span origin inner) =>
          if origin = .inline ∨
              (missing = .dottedKey ∧ origin = .header) then
            none
          else do
            let changed ← follow origin inner
            return entries.replace key.name (.table span origin changed)
      | some (.tableArray span tables) => do
          let changed ← changeLast? (follow .header) tables
          return entries.replace key.name (.tableArray span changed)
      | some _ => none

/-- Add an item under a dotted key. A table that the key goes through must be
one that dotted keys have made. -/
def assign? (entries : Entries) (path : List Key) (key : Key) (item : Item) :
    Option Entries :=
  let insert := fun (origin : TableOrigin) (target : Entries) =>
    if path.isEmpty ∨ origin = .dottedKey then
      target.add? key item
    else
      none
  changeAt? .dottedKey insert .header path entries

end Entries

/-- The last part of a dotted key and the parts before it. -/
def splitLast? (path : List Key) : Option (List Key × Key) :=
  path.getLast?.map fun last => (path.dropLast, last)

end ManagedBinding.Toml
