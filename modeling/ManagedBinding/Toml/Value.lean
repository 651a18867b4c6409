import ManagedBinding.Toml.Table

/-!
Reading keys and values. `size` is the length of the whole text in bytes; it
turns the text that is still to come into a place.
-/

namespace ManagedBinding.Toml

/-- The character may stand in a key without quotes. -/
def isBareKeyChar (char : Char) : Bool :=
  char.isAlphanum || char = '_' || char = '-'

/-- Read one part of a key: bare, or quoted on one line. -/
def readKey (size : Nat) (chars : List Char) : Option (Key × List Char) := do
  let (name, rest) ←
    match chars with
    | '"' :: body => readBasic body
    | '\x27' :: body => readLiteral body
    | _ =>
        let name := chars.takeWhile isBareKeyChar
        if name.isEmpty then
          none
        else
          some (name, chars.dropWhile isBareKeyChar)
  return (⟨String.ofList name, Span.between size chars rest⟩, rest)

/-- Read the parts of a key with points between them, and the blanks behind
it. There may be up to `limit` parts. -/
def readParts (size : Nat) :
    Nat → List Char → Option (List Key × List Char)
  | 0, _ => none
  | limit + 1, chars => do
      let (key, afterKey) ← readKey size chars
      match skipLineBlanks afterKey with
      | '.' :: rest =>
          let (path, remaining) ← readParts size limit (skipLineBlanks rest)
          return (key :: path, remaining)
      | remaining => return ([key], remaining)

/-- The most parts that a dotted key may have. -/
def maxKeyParts : Nat := 80

/-- Read a dotted key and the blanks behind it. -/
def readPath (size : Nat) (chars : List Char) :
    Option (List Key × List Char) :=
  readParts size maxKeyParts chars

/-- How deep arrays and inline tables may be nested. -/
def maxNesting : Nat := 80

mutual

/-- Read a value inside `depth` arrays and inline tables. -/
def readValue (size : Nat) :
    Nat → Nat → List Char → Option (Item × List Char)
  | 0, _, _ => none
  | fuel + 1, depth, chars =>
      match chars with
      | '[' :: rest => do
          if maxNesting ≤ depth then
            none
          else
            let (items, remaining) ← readItems size fuel (depth + 1) rest
            return (.array (.between size chars remaining) items, remaining)
      | '\x7b' :: rest => do
          if maxNesting ≤ depth then
            none
          else
            let (entries, remaining) ←
              readEntries size fuel (depth + 1) [] rest
            return (.table (.between size chars remaining) .inline entries,
              remaining)
      | _ => do
          let (value, remaining) ← readScalar chars
          return (.scalar (.between size chars remaining) value, remaining)

/-- Read the items of an array up to its bracket. -/
def readItems (size : Nat) :
    Nat → Nat → List Char → Option (List Item × List Char)
  | 0, _, _ => none
  | fuel + 1, depth, chars => do
      match ← skipBlanks false chars with
      | ']' :: remaining => return ([], remaining)
      | start =>
          let (item, afterItem) ← readValue size fuel depth start
          match ← skipBlanks false afterItem with
          | ',' :: rest =>
              let (items, remaining) ← readItems size fuel depth rest
              return (item :: items, remaining)
          | ']' :: remaining => return ([item], remaining)
          | _ => none

/-- Read the entries of an inline table up to its brace, behind those that it
has already. Line ends and comments may stand everywhere but inside a key. -/
def readEntries (size : Nat) :
    Nat → Nat → Entries → List Char → Option (Entries × List Char)
  | 0, _, _, _ => none
  | fuel + 1, depth, done, chars => do
      match ← skipBlanks false chars with
      | '\x7d' :: remaining => return (done, remaining)
      | start =>
          let (path, afterPath) ← readPath size start
          match ← skipBlanks false afterPath with
          | '=' :: afterSign =>
              let (item, afterItem) ←
                readValue size fuel depth (← skipBlanks false afterSign)
              let (parents, key) ← splitLast? path
              let entries ← done.assign? parents key item
              match ← skipBlanks false afterItem with
              | ',' :: rest => readEntries size fuel depth entries rest
              | '\x7d' :: remaining => return (entries, remaining)
              | _ => none
          | _ => none

end

end ManagedBinding.Toml
