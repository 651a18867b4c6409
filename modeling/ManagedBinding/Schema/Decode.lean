import ManagedBinding.Schema.Error
import ManagedBinding.Schema.Vocabulary

/-!
Reading the model from its JSON form. A record is an object; unknown keys
count for nothing, and known keys are read in the order of their names, so
that the first fault found does not depend on the order of the fields. The
records without a declaration inside, and the declaration itself, may also be
arrays of their fields in order.
-/

namespace ManagedBinding.Schema

/-- A value of the model, or the first fault of its JSON form. -/
abbrev Decoded (α : Type) := Except DecodeError α

/-- The fault of a value of the wrong shape. -/
def wrongType {α : Type} (value : Json) (expected : Expectation) :
    Decoded α :=
  .error (.wrongType (finding value) expected)

def decodeString : Json → Decoded String
  | .string value => .ok value
  | other => wrongType other .string

def decodeBoolean : Json → Decoded Bool
  | .boolean value => .ok value
  | other => wrongType other .boolean

def decodeList {α : Type} (decode : Json → Decoded α) :
    Json → Decoded (List α)
  | .array items => items.mapM decode
  | other => wrongType other .sequence

/-- Read an optional value; `null` stands for none. -/
def decodeOption {α : Type} (decode : Json → Decoded α) :
    Json → Decoded (Option α)
  | .null => .ok none
  | value => (decode value).map some

/-- The value of an enumeration with the given name. -/
def variantNamed {α : Type} [Vocabulary α] (name : String) : Decoded α :=
  match Vocabulary.find? name with
  | some value => .ok value
  | none => .error (.unknownVariant name (Vocabulary.names α))

/-- Read a value of an enumeration: its name, or an object whose only key is
its name, with a payload that counts as empty. -/
def decodeVariantWith {α : Type} [Vocabulary α]
    (isEmptyPayload : Json → Bool) : Json → Decoded α
  | .string name => variantNamed name
  | .object [(name, payload)] => do
      let value ← variantNamed name
      if isEmptyPayload payload then
        .ok value
      else
        wrongType payload .emptyPayload
  | .object _ => .error .notOneKey
  | other => wrongType other .variant

def isNull : Json → Bool
  | .null => true
  | _ => false

def isNullOrEmpty : Json → Bool
  | .null => true
  | .object [] => true
  | _ => false

/-- Read a value of an enumeration whose payload, if written, is `null`. -/
def decodeVariant {α : Type} [Vocabulary α] (value : Json) : Decoded α :=
  decodeVariantWith isNull value

/-- Read the field with the given key, if there is one. -/
def decodeField? {α : Type}
    (fields : List (String × Json)) (key : String)
    (decode : Json → Decoded α) : Decoded (Option α) :=
  match fields.lookup key with
  | none => .ok none
  | some value => (decode value).map some

/-- Read the field with the given key; it has a default. -/
def decodeFieldD {α : Type}
    (fields : List (String × Json)) (key : String)
    (decode : Json → Decoded α) (default : α) : Decoded α :=
  match fields.lookup key with
  | none => .ok default
  | some value => decode value

/-- Insist on a field that has no default. -/
def required {α : Type} (key : String) : Option α → Decoded α
  | none => .error (.missingField key)
  | some value => .ok value

/-- Read the next item of an array; it may be missing and has a default. -/
def decodeItemD {α : Type}
    (items : List Json) (index : Nat)
    (decode : Json → Decoded α) (default : α) : Decoded α :=
  match items[index]? with
  | none => .ok default
  | some value => decode value

/-- Insist that an array of the given length has no items behind the fields
of its record. -/
def atMost (size length : Nat) : Decoded Unit :=
  if length ≤ size then
    .ok ()
  else
    .error (.longArray length)

/-- The names of the shapes of a type. -/
def typeVariants : List String :=
  ["builtin", "pointer", "reference", "rvalue_reference", "tag"]

mutual

/-- Read a type: an object whose only key names the shape of the type. -/
def decodeType (value : Json) : Decoded NativeType :=
  match value with
  | .string name =>
      if typeVariants.contains name then
        .error .variantWithoutPayload
      else
        .error (.unknownVariant name typeVariants)
  | .object [(name, payload)] =>
      if name = "builtin" then
        (decodeVariant payload).map .builtin
      else if name = "tag" then
        (decodeString payload).map .tag
      else
        match (Vocabulary.find? name : Option Indirection) with
        | some via => do
            let target ← decodeQualifiedType payload
            return .indirect via target.type target.isConst
        | none => .error (.unknownVariant name typeVariants)
  | .object _ => .error .notOneKey
  | other => wrongType other .variant
termination_by sizeOf value

def decodeQualifiedType (value : Json) : Decoded QualifiedType :=
  match value with
  | .object fields => do
      let isConst ← decodeFieldD fields "is_const" decodeBoolean false
      match found : fields.lookup "type" with
      | some type => do
          have := Json.sizeOf_lt_of_lookup found
          let type ← decodeType type
          return ⟨type, isConst⟩
      | none => .error (.missingField "type")
  | .array [] => .error (.shortArray 0 .qualifiedType 2)
  | .array (type :: rest) => do
      let type ← decodeType type
      let isConst ← decodeItemD rest 0 decodeBoolean false
      atMost 2 (rest.length + 1)
      return ⟨type, isConst⟩
  | other => wrongType other (.record .qualifiedType)
termination_by sizeOf value

end

def decodeParameter : Json → Decoded Parameter
  | .object fields => do
      let name ← decodeField? fields "name" decodeString
      let type ← decodeField? fields "qualified_type" decodeQualifiedType
      let name ← required "name" name
      let type ← required "qualified_type" type
      return ⟨name, type⟩
  | .array [] => .error (.shortArray 0 .parameter 2)
  | .array [name] => do
      let _ ← decodeString name
      .error (.shortArray 1 .parameter 2)
  | .array (name :: type :: rest) => do
      let name ← decodeString name
      let type ← decodeQualifiedType type
      atMost 2 (rest.length + 2)
      return ⟨name, type⟩
  | other => wrongType other (.record .parameter)

/-- Read a declaration from the fields of an object. -/
def decodeDeclarationFields
    (decodeAccess : Json → Decoded Access)
    (fields : List (String × Json)) : Decoded Declaration := do
  let access ← decodeFieldD fields "access" decodeAccess .publicAccess
  let comment ← decodeFieldD fields "comment" (decodeOption decodeString) none
  let ignored ← decodeFieldD fields "ignore" decodeBoolean false
  let name ← decodeField? fields "name" decodeString
  let scopes ← decodeFieldD fields "namespace" (decodeList decodeString) []
  let name ← required "name" name
  return ⟨name, scopes, access, ignored, comment⟩

/-- Read the declaration of a class or member from the fields that it shares
with its owner. There the payload of the access level may also be an empty
object. -/
def decodeSharedDeclaration (fields : List (String × Json)) :
    Decoded Declaration :=
  decodeDeclarationFields (decodeVariantWith isNullOrEmpty) fields

def decodeDeclaration : Json → Decoded Declaration
  | .object fields => decodeDeclarationFields decodeVariant fields
  | .array [] => .error (.shortArray 0 .declaration 5)
  | .array (name :: rest) => do
      let name ← decodeString name
      let scopes ← decodeItemD rest 0 (decodeList decodeString) []
      let access ← decodeItemD rest 1 decodeVariant .publicAccess
      let ignored ← decodeItemD rest 2 decodeBoolean false
      let comment ← decodeItemD rest 3 (decodeOption decodeString) none
      atMost 5 (rest.length + 1)
      return ⟨name, scopes, access, ignored, comment⟩
  | other => wrongType other (.record .declaration)

/-- Read a method. Its own fields come before those of its declaration. -/
def decodeMethod : Json → Decoded Method
  | .object fields => do
      let conversion ← decodeFieldD fields "conversion" decodeVariant .none
      let isStatic ← decodeFieldD fields "is_static" decodeBoolean false
      let kind ← decodeFieldD fields "kind" decodeVariant .normal
      let operator ←
        decodeFieldD fields "operator_kind" (decodeOption decodeVariant) none
      let parameters ←
        decodeFieldD fields "parameters" (decodeList decodeParameter) []
      let returnType ← decodeField? fields "return_type" decodeQualifiedType
      let returnType ← required "return_type" returnType
      let declaration ← decodeSharedDeclaration fields
      return ⟨declaration, kind, operator, conversion, isStatic, returnType,
        parameters⟩
  | other => wrongType other (.record .method)

def decodeField : Json → Decoded Field
  | .object fields => do
      let type ← decodeField? fields "qualified_type" decodeQualifiedType
      let type ← required "qualified_type" type
      let declaration ← decodeSharedDeclaration fields
      return ⟨declaration, type⟩
  | other => wrongType other (.record .field)

def decodeEvent : Json → Decoded Event
  | .object fields => do
      let parameterTypes ←
        decodeFieldD fields "parameters" (decodeList decodeQualifiedType) []
      let declaration ← decodeSharedDeclaration fields
      return ⟨declaration, parameterTypes⟩
  | other => wrongType other (.record .event)

def decodeClass : Json → Decoded Class
  | .object fields => do
      let events ← decodeFieldD fields "events" (decodeList decodeEvent) []
      let members ← decodeFieldD fields "fields" (decodeList decodeField) []
      let isValueType ←
        decodeFieldD fields "is_value_type" decodeBoolean false
      let methods ← decodeFieldD fields "methods" (decodeList decodeMethod) []
      let declaration ← decodeSharedDeclaration fields
      return ⟨declaration, isValueType, methods, members, events⟩
  | other => wrongType other (.record .nativeClass)

def decodeUnit : Json → Decoded CompilationUnit
  | .object fields => do
      let classes ← decodeFieldD fields "classes" (decodeList decodeClass) []
      let fileName ← decodeField? fields "file_name" decodeString
      let fileName ← required "file_name" fileName
      return ⟨fileName, classes⟩
  | .array [] => .error (.shortArray 0 .compilationUnit 2)
  | .array (fileName :: rest) => do
      let fileName ← decodeString fileName
      let classes ← decodeItemD rest 0 (decodeList decodeClass) []
      atMost 2 (rest.length + 1)
      return ⟨fileName, classes⟩
  | other => wrongType other (.record .compilationUnit)

end ManagedBinding.Schema
