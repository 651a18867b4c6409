import ManagedBinding.Options.Basic
import ManagedBinding.Options.Error
import ManagedBinding.Text.Blank
import ManagedBinding.Text.Scopes
import ManagedBinding.Toml.Document

/-!
Reading options from the text of a file. A well-formed document is first
reduced to what it says about each key, and this is then checked: while
wrapping is on, there must be a namespace, and no segment of it may be blank.
-/

namespace ManagedBinding

open Toml (Span Item Key)

/-- A string with the place where it is written. -/
structure SpannedString where
  value : String
  span : Span
  deriving DecidableEq, Repr

/-- What a document says about each key. -/
structure RawOptions where
  enabled : Bool
  name : Option SpannedString
  deriving DecidableEq, Repr

namespace RawOptions

/-- What a document says that holds no keys. -/
def unset : RawOptions := ⟨false, none⟩

/-- The fault of an item that is of another type than its key takes. -/
def wrongType (key : OptionsKey) (item : Item) : OptionsFault :=
  match item with
  | .scalar _ (.string value) => .wrongType key (.string value)
  | .scalar _ (.number (.integer value)) => .wrongType key (.integer value)
  | .scalar _ (.number .integerOutOfRange) => .integerOverflow
  | .scalar _ (.number (.float value)) => .wrongType key (.fraction value)
  | .scalar _ (.number .floatOutOfRange) => .floatOverflow
  | .scalar _ (.boolean value) => .wrongType key (.boolean value)
  | .scalar _ .dateTime => .wrongType key .map
  | .array _ _ => .wrongType key .sequence
  | .tableArray _ _ => .wrongType key .sequence
  | .table _ _ _ => .wrongType key .map

/-- Add one entry of a document. -/
def read (raw : RawOptions) (entry : Key × Item) :
    Except (OptionsFault × Span) RawOptions :=
  let (key, item) := entry
  if key.name = OptionsKey.generateLibraryNamespace.name then
    match item with
    | .scalar _ (.boolean value) => .ok { raw with enabled := value }
    | other =>
        .error (wrongType .generateLibraryNamespace other, other.span)
  else if key.name = OptionsKey.outputNamespace.name then
    match item with
    | .scalar span (.string value) =>
        .ok { raw with name := some ⟨value, span⟩ }
    | other => .error (wrongType .outputNamespace other, other.span)
  else
    .error (.unknownKey key.name, key.span)

/-- What the entries of a document say. They are read in the order of their
names, so the first fault does not depend on their order in the text. -/
def ofEntries (entries : Toml.Entries) :
    Except (OptionsFault × Span) RawOptions :=
  let sorted :=
    List.mergeSort entries fun left right =>
      decide (left.1.name ≤ right.1.name)
  sorted.foldlM read unset

/-- Why the namespace cannot be used, if it is needed. -/
def namespaceFault? (raw : RawOptions) : Option NamespaceFault :=
  if raw.enabled then
    match raw.name with
    | none => some .missing
    | some name =>
        if Text.isBlank name.value then
          some .blank
        else if (Text.splitScopes name.value.toList).any
            (List.all · Text.isBlankChar) then
          some (.blankSegment name.value)
        else
          none
  else
    none

/-- The options that a checked document stands for. -/
def toOptions (raw : RawOptions) : Options :=
  ⟨raw.enabled, (raw.name.map SpannedString.value).getD ""⟩

end RawOptions

/-- The report on an invalid value. -/
def OptionsSource.invalid
    (source : OptionsSource) (message : String) (span : Option Span) :
    OptionsError :=
  .invalid source message span

/-- What the text of a source says. -/
def OptionsSource.read (source : OptionsSource) :
    Except OptionsError RawOptions :=
  match Toml.parse? source.text with
  | none => .error (.malformed source)
  | some entries =>
      match RawOptions.ofEntries entries with
      | .ok raw => .ok raw
      | .error (fault, span) => .error (.unfit source fault span)

/-- What a file system has under a path. -/
inductive FileContent
  | absent
  | directory
  | bytes (content : ByteArray)

namespace Options

/-- The name of an options file that is not named otherwise. -/
def defaultFileName : String := "bindweave.toml"

/-- Read and check options; `name` is what reports call the text. -/
def parse (text name : String) : Except OptionsError Options := do
  let source : OptionsSource := ⟨text, name⟩
  let raw ← source.read
  match raw.namespaceFault? with
  | some fault =>
      .error <|
        source.invalid fault.message (raw.name.map SpannedString.span)
  | none => return raw.toOptions

/-- Read and check the options in the file under a path. -/
def ofFile (path : String) (content : FileContent) :
    Except OptionsError Options :=
  match content with
  | .absent => .error (.unreadable path .notFound)
  | .directory => .error (.unreadable path .isDirectory)
  | .bytes content =>
      match String.fromUTF8? content with
      | some text => parse text path
      | none => .error (.unreadable path .notUtf8)

end Options

end ManagedBinding
