import ManagedBinding.Json.Basic
import ManagedBinding.Schema.Vocabulary

/-!
The JSON form of the model. Every field is written, defaults included; the
fields of a declaration stand directly in the object of the class or member
that it belongs to.
-/

namespace ManagedBinding.Schema

/-- A value of an enumeration, by its name. -/
def encodeVariant {α : Type} [Vocabulary α] (value : α) : Json :=
  .string (Vocabulary.name value)

def encodeList {α : Type} (encode : α → Json) (items : List α) : Json :=
  .array (items.map encode)

/-- An optional value; `null` stands for none. -/
def encodeOption {α : Type} (encode : α → Json) : Option α → Json
  | none => .null
  | some value => encode value

/-- The object of a qualified type. -/
def qualifiedTypeObject (type : Json) (isConst : Bool) : Json :=
  .object [("type", type), ("is_const", .boolean isConst)]

/-- A type is an object with one key, which names its shape. -/
def encodeType : NativeType → Json
  | .builtin primitive => .object [("builtin", encodeVariant primitive)]
  | .tag name => .object [("tag", .string name)]
  | .indirect via target targetIsConst =>
      .object
        [(Vocabulary.name via,
          qualifiedTypeObject (encodeType target) targetIsConst)]

def encodeQualifiedType (type : QualifiedType) : Json :=
  qualifiedTypeObject (encodeType type.type) type.isConst

def encodeParameter (parameter : Parameter) : Json :=
  .object
    [("name", .string parameter.name),
      ("qualified_type", encodeQualifiedType parameter.type)]

def declarationFields (declaration : Declaration) : List (String × Json) :=
  [("name", .string declaration.name),
    ("namespace", encodeList .string declaration.scopes),
    ("access", encodeVariant declaration.access),
    ("ignore", .boolean declaration.ignored),
    ("comment", encodeOption .string declaration.comment)]

def encodeDeclaration (declaration : Declaration) : Json :=
  .object (declarationFields declaration)

def encodeMethod (method : Method) : Json :=
  .object <|
    declarationFields method.declaration ++
      [("kind", encodeVariant method.kind),
        ("operator_kind", encodeOption encodeVariant method.operator),
        ("conversion", encodeVariant method.conversion),
        ("is_static", .boolean method.isStatic),
        ("return_type", encodeQualifiedType method.returnType),
        ("parameters", encodeList encodeParameter method.parameters)]

def encodeField (field : Field) : Json :=
  .object <|
    declarationFields field.declaration ++
      [("qualified_type", encodeQualifiedType field.type)]

def encodeEvent (event : Event) : Json :=
  .object <|
    declarationFields event.declaration ++
      [("parameters", encodeList encodeQualifiedType event.parameterTypes)]

def encodeClass (owner : Class) : Json :=
  .object <|
    declarationFields owner.declaration ++
      [("is_value_type", .boolean owner.isValueType),
        ("methods", encodeList encodeMethod owner.methods),
        ("fields", encodeList encodeField owner.fields),
        ("events", encodeList encodeEvent owner.events)]

def encodeUnit (unit : CompilationUnit) : Json :=
  .object
    [("file_name", .string unit.fileName),
      ("classes", encodeList encodeClass unit.classes)]

end ManagedBinding.Schema
