import ManagedBinding.Toml.Value

/-!
Whole documents. A document is a list of sections, each of them assignments
under a header; only the first section has no header. The root table is built
from the sections in order.
-/

namespace ManagedBinding.Toml

/-- The header of a section: the path of a table, or of an array to which the
section adds a table. -/
structure Header where
  path : List Key
  key : Key
  addsToArray : Bool
  span : Span
  deriving DecidableEq, Repr

/-- Assignments to dotted keys, in order. -/
abbrev Assignments := List (List Key × Key × Item)

/-- A header and the assignments under it. -/
structure Section where
  header : Header
  assignments : Assignments
  deriving Repr

/-- One line of a document that is not blank. -/
inductive Line
  | header (header : Header)
  | assignment (path : List Key) (key : Key) (item : Item)
  deriving Repr

def readHeader (size : Nat) (chars : List Char) :
    Option (Header × List Char) := do
  let (addsToArray, inside) ←
    match chars with
    | '[' :: '[' :: rest => some (true, rest)
    | '[' :: rest => some (false, rest)
    | _ => none
  let (path, afterPath) ← readPath size (skipLineBlanks inside)
  let (parents, key) ← splitLast? path
  let remaining ←
    match addsToArray, afterPath with
    | true, ']' :: ']' :: rest => some rest
    | false, ']' :: rest => some rest
    | _, _ => none
  return (⟨parents, key, addsToArray, .between size chars remaining⟩,
    remaining)

def readAssignment (size : Nat) (chars : List Char) :
    Option (Line × List Char) := do
  let (path, afterPath) ← readPath size chars
  let (parents, key) ← splitLast? path
  match afterPath with
  | '=' :: rest =>
      let (item, remaining) ←
        readValue size (2 * rest.length + 2) 0 (skipLineBlanks rest)
      return (.assignment parents key item, remaining)
  | _ => none

def readLine (size : Nat) (chars : List Char) : Option (Line × List Char) := do
  let (line, afterLine) ←
    if chars.head? = some '[' then
      (readHeader size chars).map fun (header, rest) =>
        (Line.header header, rest)
    else
      readAssignment size chars
  return (line, ← atLineEnd afterLine)

/-- Read all lines; `fuel` bounds their number. -/
def readLines (size : Nat) : Nat → List Char → Option (List Line)
  | 0, _ => none
  | fuel + 1, chars => do
      match ← skipBlanks false chars with
      | [] => return []
      | start =>
          let (line, remaining) ← readLine size start
          return line :: (← readLines size fuel remaining)

/-- The assignments before the first header, and the sections. -/
def sections : List Line → Assignments × List Section
  | [] => ([], [])
  | .assignment path key item :: rest =>
      let (assignments, others) := sections rest
      ((path, key, item) :: assignments, others)
  | .header header :: rest =>
      let (assignments, others) := sections rest
      ([], ⟨header, assignments⟩ :: others)

/-- Make assignments in order. -/
def assignAll? (entries : Entries) (assignments : Assignments) :
    Option Entries :=
  assignments.foldlM
    (fun current assignment =>
      current.assign? assignment.1 assignment.2.1 assignment.2.2)
    entries

/-- Add a section to the table that its header's path leads to. A table with
a header of its own takes over what headers below it have already put into
it. -/
def Section.addTo? (part : Section) (parent : Entries) : Option Entries :=
  let header := part.header
  let name := header.key.name
  if header.addsToArray then do
    let entries ← assignAll? [] part.assignments
    match parent.find? name with
    | none => parent.add? header.key (.tableArray header.span [entries])
    | some (.tableArray span tables) =>
        return parent.replace name (.tableArray span (tables ++ [entries]))
    | some _ => none
  else do
    let existing ←
      match parent.find? name with
      | none => some []
      | some (.table _ .headerPath entries) => some entries
      | some _ => none
    let entries ← assignAll? existing part.assignments
    (parent.erase name).add? header.key (.table header.span .header entries)

/-- Add a section to the root table. -/
def addSection? (root : Entries) (part : Section) : Option Entries :=
  root.changeAt? .headerPath (fun _ parent => part.addTo? parent) .header
    part.header.path

/-- The root table of a document; there is none if the text is not
well-formed. A byte order mark at the start is skipped. -/
def parse? (text : String) : Option Entries := do
  let chars := text.toList
  let content := if chars.head? = some '\uFEFF' then chars.drop 1 else chars
  let lines ← readLines (byteLength chars) (content.length + 1) content
  let (assignments, others) := sections lines
  let root ← assignAll? [] assignments
  others.foldlM addSection? root

end ManagedBinding.Toml
