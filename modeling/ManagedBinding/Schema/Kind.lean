import ManagedBinding.Schema.Decode
import ManagedBinding.Schema.Encode

/-!
The kinds of values that have a JSON form of their own, with the type of the
values of each kind and the passage to and from JSON.
-/

namespace ManagedBinding.Schema

/-- A kind of model value. -/
inductive Kind
  | unit
  | nativeClass
  | method
  | field
  | event
  | parameter
  | declaration
  | qualifiedType
  | type
  | primitive
  | operator
  | methodKind
  | conversion
  | access
  deriving DecidableEq, Repr

def Kind.Value : Kind → Type
  | .unit => CompilationUnit
  | .nativeClass => Class
  | .method => Method
  | .field => Field
  | .event => Event
  | .parameter => Parameter
  | .declaration => Declaration
  | .qualifiedType => QualifiedType
  | .type => NativeType
  | .primitive => Primitive
  | .operator => Operator
  | .methodKind => MethodKind
  | .conversion => FunctionConversion
  | .access => Access

instance (kind : Kind) : DecidableEq kind.Value :=
  match kind with
  | .unit => inferInstanceAs (DecidableEq CompilationUnit)
  | .nativeClass => inferInstanceAs (DecidableEq Class)
  | .method => inferInstanceAs (DecidableEq Method)
  | .field => inferInstanceAs (DecidableEq Field)
  | .event => inferInstanceAs (DecidableEq Event)
  | .parameter => inferInstanceAs (DecidableEq Parameter)
  | .declaration => inferInstanceAs (DecidableEq Declaration)
  | .qualifiedType => inferInstanceAs (DecidableEq QualifiedType)
  | .type => inferInstanceAs (DecidableEq NativeType)
  | .primitive => inferInstanceAs (DecidableEq Primitive)
  | .operator => inferInstanceAs (DecidableEq Operator)
  | .methodKind => inferInstanceAs (DecidableEq MethodKind)
  | .conversion => inferInstanceAs (DecidableEq FunctionConversion)
  | .access => inferInstanceAs (DecidableEq Access)

def decode : (kind : Kind) → Json → Decoded kind.Value
  | .unit => decodeUnit
  | .nativeClass => decodeClass
  | .method => decodeMethod
  | .field => decodeField
  | .event => decodeEvent
  | .parameter => decodeParameter
  | .declaration => decodeDeclaration
  | .qualifiedType => decodeQualifiedType
  | .type => decodeType
  | .primitive => (decodeVariant : Json → Decoded Primitive)
  | .operator => (decodeVariant : Json → Decoded Operator)
  | .methodKind => (decodeVariant : Json → Decoded MethodKind)
  | .conversion => (decodeVariant : Json → Decoded FunctionConversion)
  | .access => (decodeVariant : Json → Decoded Access)

def encode : (kind : Kind) → kind.Value → Json
  | .unit => encodeUnit
  | .nativeClass => encodeClass
  | .method => encodeMethod
  | .field => encodeField
  | .event => encodeEvent
  | .parameter => encodeParameter
  | .declaration => encodeDeclaration
  | .qualifiedType => encodeQualifiedType
  | .type => encodeType
  | .primitive => (encodeVariant : Primitive → Json)
  | .operator => (encodeVariant : Operator → Json)
  | .methodKind => (encodeVariant : MethodKind → Json)
  | .conversion => (encodeVariant : FunctionConversion → Json)
  | .access => (encodeVariant : Access → Json)

end ManagedBinding.Schema
