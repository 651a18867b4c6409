import ManagedBinding.Diagnostic.Finding
import ManagedBinding.Json.Basic

/-!
Why a JSON value is not a value of the model, and the wording of each cause.
-/

namespace ManagedBinding.Schema

/-- The records of the model. -/
inductive Record
  | compilationUnit
  | nativeClass
  | method
  | field
  | event
  | parameter
  | declaration
  | qualifiedType
  deriving DecidableEq, Repr

def Record.name : Record → String
  | .compilationUnit => "TranslationUnit"
  | .nativeClass => "Class"
  | .method => "Method"
  | .field => "Field"
  | .event => "Event"
  | .parameter => "Parameter"
  | .declaration => "Declaration"
  | .qualifiedType => "QualifiedType"

/-- What a position of the model takes. The payload of a variant that has
none is `null`. -/
inductive Expectation
  | string
  | boolean
  | sequence
  | variant
  | emptyPayload
  | record (record : Record)
  deriving DecidableEq, Repr

def Expectation.wording : Expectation → String
  | .string => "a string"
  | .boolean => "a boolean"
  | .sequence => "a sequence"
  | .variant => "string or map"
  | .emptyPayload => "unit"
  | .record expected => "struct " ++ expected.name

/-- The first fault of a JSON value. -/
inductive DecodeError
  | wrongType (found : Finding) (expected : Expectation)
  | notOneKey
  | unknownVariant (name : String) (known : List String)
  | variantWithoutPayload
  | missingField (name : String)
  | shortArray (length : Nat) (record : Record) (size : Nat)
  | longArray (length : Nat)
  deriving DecidableEq, Repr

/-- A name between grave accents. -/
def codeQuoted (name : String) : String :=
  "`" ++ name ++ "`"

def DecodeError.message : DecodeError → String
  | .wrongType found expected =>
      "invalid type: " ++ found.wording .compact ++ ", expected " ++
        expected.wording
  | .notOneKey =>
      "invalid value: map, expected map with a single key"
  | .unknownVariant name known =>
      "unknown variant " ++ codeQuoted name ++ ", expected one of " ++
        ", ".intercalate (known.map codeQuoted)
  | .variantWithoutPayload =>
      "invalid type: unit variant, expected newtype variant"
  | .missingField name => "missing field " ++ codeQuoted name
  | .shortArray length record size =>
      "invalid length " ++ toString length ++ ", expected struct " ++
        record.name ++ " with " ++ toString size ++ " elements"
  | .longArray length =>
      "invalid length " ++ toString length ++
        ", expected fewer elements in array"

/-- What a message says about a JSON value. -/
def finding : Json → Finding
  | .null => .null
  | .boolean value => .boolean value
  | .number (.integer value) => .integer value
  | .number (.fraction value) => .fraction value
  | .string value => .string value
  | .array _ => .sequence
  | .object _ => .map

end ManagedBinding.Schema
