import ManagedBinding.Diagnostic.Finding
import ManagedBinding.Toml.Span

/-!
Why options are refused, and what the report of each cause says. Places are
byte spans of the options text.
-/

namespace ManagedBinding

open Toml (Span)

/-- The text of an options file, and the name that reports give it. -/
structure OptionsSource where
  text : String
  name : String
  deriving DecidableEq, Repr

/-- The keys of an options file. -/
inductive OptionsKey
  | generateLibraryNamespace
  | outputNamespace
  deriving DecidableEq, Repr

def OptionsKey.name : OptionsKey → String
  | .generateLibraryNamespace => "generate_library_namespace"
  | .outputNamespace => "output_namespace"

/-- What a key takes. -/
def OptionsKey.expectation : OptionsKey → String
  | .generateLibraryNamespace => "a boolean"
  | .outputNamespace => "a string"

/-- Why a well-formed document holds no options. -/
inductive OptionsFault
  | unknownKey (name : String)
  | wrongType (key : OptionsKey) (found : Finding)
  | integerOverflow
  | floatOverflow
  deriving DecidableEq, Repr

/-- Why a namespace is no name for the output to stand in. -/
inductive NamespaceFault
  | missing
  | blank
  | blankSegment (name : String)
  deriving DecidableEq, Repr

inductive ReadFailure
  | notFound
  | isDirectory
  | notUtf8
  deriving DecidableEq, Repr

/-- Why there are no options. -/
inductive OptionsError
  | unreadable (path : String) (failure : ReadFailure)
  | malformed (source : OptionsSource)
  | unfit (source : OptionsSource) (fault : OptionsFault) (span : Span)
  | invalid
      (source : OptionsSource) (message : String) (span : Option Span)
  deriving DecidableEq, Repr

def ReadFailure.name : ReadFailure → String
  | .notFound => "NotFound"
  | .isDirectory => "IsADirectory"
  | .notUtf8 => "InvalidData"

def OptionsFault.message : OptionsFault → String
  | .unknownKey name =>
      "unknown field `" ++ name ++ "`, expected `" ++
        OptionsKey.generateLibraryNamespace.name ++ "` or `" ++
        OptionsKey.outputNamespace.name ++ "`"
  | .wrongType key found =>
      "invalid type: " ++ found.wording .positional ++ ", expected " ++
        key.expectation
  | .integerOverflow => "integer number overflowed"
  | .floatOverflow => "floating-point number overflowed"

def NamespaceFault.message : NamespaceFault → String
  | .missing =>
      "output_namespace is required when generate_library_namespace is enabled"
  | .blank => "output_namespace must not be empty"
  | .blankSegment name =>
      "output_namespace '" ++ name ++ "' has an empty '::' segment"

namespace OptionsError

def message : OptionsError → String
  | .unreadable path _ => "failed to read '" ++ path ++ "'"
  | .malformed _ => "failed to parse options"
  | .unfit _ _ _ => "failed to parse options"
  | .invalid _ message _ => message

def code : OptionsError → String
  | .unreadable _ _ => "bindweave::io"
  | .malformed _ => "bindweave::parse_error"
  | .unfit _ _ _ => "bindweave::parse_error"
  | .invalid _ _ _ => "bindweave::validation_error"

/-- What to do about an invalid namespace. -/
def help? : OptionsError → Option String
  | .invalid _ _ _ =>
      some
        "set 'output_namespace' to a name such as \"Interop\" or \"Vendor::Interop\""
  | _ => none

/-- The places that a report points at, each with its note. -/
def labels : OptionsError → List (String × Span)
  | .unfit _ _ span => [("parse error here", span)]
  | .invalid _ message (some span) => [(message, span)]
  | _ => []

end OptionsError

end ManagedBinding
