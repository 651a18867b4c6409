import ManagedBinding.Proofs.Schema.WrittenKeys

/-!
# Reading what has been written

Every value of the model is read back from its JSON form.  The proof follows
the model: names of enumerations, then types by induction over their
indirections, then the records from the inside out.  In the records that
contain a declaration, the readers of the record's own fields pass over the
declaration, and the reader of the declaration finds its fields in front of
all others.

Written objects moreover have pairwise distinct keys, so that no field hides
another one.
-/

namespace ManagedBinding.Schema

/-- Every value of an enumeration is found under its name. -/
class LawfulVocabulary (α : Type) [Vocabulary α] : Prop where
  find?_name : ∀ value : α,
    Vocabulary.find? (Vocabulary.name value) = some value

instance : LawfulVocabulary Primitive where
  find?_name value := by cases value <;> rfl

instance : LawfulVocabulary Indirection where
  find?_name value := by cases value <;> rfl

instance : LawfulVocabulary Access where
  find?_name value := by cases value <;> rfl

instance : LawfulVocabulary MethodKind where
  find?_name value := by cases value <;> rfl

instance : LawfulVocabulary FunctionConversion where
  find?_name value := by cases value <;> rfl

instance : LawfulVocabulary Operator where
  find?_name value := by cases value <;> rfl

section Enumerations

variable {α : Type} [Vocabulary α] [LawfulVocabulary α]

@[simp]
theorem decodeVariantWith_encodeVariant
    (isEmptyPayload : Json → Bool) (value : α) :
    decodeVariantWith isEmptyPayload (encodeVariant value) = .ok value := by
  rw [encodeVariant, decodeVariantWith, variantNamed,
    LawfulVocabulary.find?_name]

@[simp]
theorem decodeVariant_encodeVariant (value : α) :
    decodeVariant (encodeVariant value) = .ok value :=
  decodeVariantWith_encodeVariant isNull value

end Enumerations

section Containers

variable {α : Type} {encode : α → Json} {decode : Json → Decoded α}

theorem decodeList_encodeList
    (readBack : ∀ item, decode (encode item) = .ok item)
    (items : List α) :
    decodeList decode (encodeList encode items) = .ok items := by
  induction items with
  | nil =>
      rfl
  | cons item rest inductionHypothesis =>
      rw [encodeList, decodeList] at inductionHypothesis ⊢
      rw [List.map_cons, List.mapM_cons, readBack, ok_bind,
        inductionHypothesis, ok_bind, pure_eq_ok]

/-- A present value is read back as present, provided that it is not written
as the mark of an absent one. -/
theorem decodeOption_encodeOption
    (readBack : ∀ item, decode (encode item) = .ok item)
    (notNull : ∀ item, encode item ≠ .null)
    (item : Option α) :
    decodeOption decode (encodeOption encode item) = .ok item := by
  cases item with
  | none =>
      rfl
  | some value =>
      have present :
          decodeOption decode (encode value) =
            (decode (encode value)).map some := by
        unfold decodeOption
        split
        · next isNull =>
            exact absurd isNull (notNull value)
        · rfl
      rw [encodeOption, present, readBack, map_ok]

end Containers

@[simp]
theorem decodeString_string (text : String) :
    decodeString (.string text) = .ok text :=
  rfl

@[simp]
theorem decodeBoolean_boolean (value : Bool) :
    decodeBoolean (.boolean value) = .ok value :=
  rfl

@[simp]
theorem decodeStrings_encodeStrings (texts : List String) :
    decodeList decodeString (encodeList .string texts) = .ok texts :=
  decodeList_encodeList decodeString_string texts

@[simp]
theorem decodeComment_encodeComment (comment : Option String) :
    decodeOption decodeString (encodeOption .string comment) =
      .ok comment :=
  decodeOption_encodeOption decodeString_string
    (fun _ equality => Json.noConfusion equality) comment

@[simp]
theorem decodeOperator_encodeOperator (operator : Option Operator) :
    decodeOption decodeVariant (encodeOption encodeVariant operator) =
      .ok operator :=
  decodeOption_encodeOption decodeVariant_encodeVariant
    (fun _ equality => Json.noConfusion equality) operator

/-- The qualifier is read back around every type that is. -/
theorem decodeQualifiedType_qualifiedTypeObject
    {type : NativeType} (isConst : Bool)
    (readBack : decodeType (encodeType type) = .ok type) :
    decodeQualifiedType (qualifiedTypeObject (encodeType type) isConst) =
      .ok ⟨type, isConst⟩ := by
  rw [qualifiedTypeObject, decodeQualifiedType_object,
    decodeFieldD_cons_of_ne (by decide), decodeFieldD_cons_self,
    decodeBoolean_boolean, ok_bind, decodeField?_cons_self, readBack]
  rfl

@[simp]
theorem decodeType_encodeType (type : NativeType) :
    decodeType (encodeType type) = .ok type := by
  induction type with
  | builtin primitive =>
      rw [encodeType, decodeType, if_pos rfl,
        decodeVariant_encodeVariant, map_ok]
  | tag name =>
      rw [encodeType, decodeType, if_neg (by decide), if_pos rfl,
        decodeString_string, map_ok]
  | indirect via target targetIsConst inductionHypothesis =>
      have notBuiltin : Vocabulary.name via ≠ "builtin" := by
        cases via <;> decide
      have notTag : Vocabulary.name via ≠ "tag" := by
        cases via <;> decide
      rw [encodeType, decodeType, if_neg notBuiltin, if_neg notTag,
        LawfulVocabulary.find?_name]
      simp only [ok_bind, pure_eq_ok,
        decodeQualifiedType_qualifiedTypeObject targetIsConst
          inductionHypothesis]

@[simp]
theorem decodeQualifiedType_encodeQualifiedType (type : QualifiedType) :
    decodeQualifiedType (encodeQualifiedType type) = .ok type :=
  decodeQualifiedType_qualifiedTypeObject type.isConst
    (decodeType_encodeType type.type)

@[simp]
theorem decodeParameter_encodeParameter (parameter : Parameter) :
    decodeParameter (encodeParameter parameter) = .ok parameter := by
  rw [encodeParameter, decodeParameter]
  simp (disch := decide) only [decodeField?_cons_self,
    decodeField?_cons_of_ne, decodeString_string,
    decodeQualifiedType_encodeQualifiedType, map_ok, ok_bind, required,
    pure_eq_ok]

/-- A declaration is read back from its fields, whatever fields follow
them. -/
theorem decodeDeclarationFields_append
    {decodeAccess : Json → Decoded Access}
    (readBack : ∀ access, decodeAccess (encodeVariant access) = .ok access)
    (declaration : Declaration) (own : List (String × Json)) :
    decodeDeclarationFields decodeAccess
        (declarationFields declaration ++ own) =
      .ok declaration := by
  rw [declarationFields, decodeDeclarationFields]
  simp (disch := decide) only [List.cons_append, decodeFieldD_cons_self,
    decodeFieldD_cons_of_ne, decodeField?_cons_self, readBack,
    decodeString_string, decodeStrings_encodeStrings,
    decodeBoolean_boolean, decodeComment_encodeComment, map_ok, ok_bind,
    required, pure_eq_ok]

@[simp]
theorem decodeSharedDeclaration_append
    (declaration : Declaration) (own : List (String × Json)) :
    decodeSharedDeclaration (declarationFields declaration ++ own) =
      .ok declaration :=
  decodeDeclarationFields_append
    (decodeVariantWith_encodeVariant isNullOrEmpty) declaration own

@[simp]
theorem decodeDeclaration_encodeDeclaration (declaration : Declaration) :
    decodeDeclaration (encodeDeclaration declaration) =
      .ok declaration := by
  have readBack :=
    decodeDeclarationFields_append decodeVariant_encodeVariant
      declaration []
  rw [List.append_nil] at readBack
  rw [encodeDeclaration, decodeDeclaration, readBack]

@[simp]
theorem decodeMethod_encodeMethod (method : Method) :
    decodeMethod (encodeMethod method) = .ok method := by
  have parametersRead :=
    decodeList_encodeList decodeParameter_encodeParameter method.parameters
  rw [encodeMethod, decodeMethod]
  simp (disch := decide) only [decodeFieldD_behind_declaration,
    decodeField?_behind_declaration, decodeFieldD_cons_self,
    decodeFieldD_cons_of_ne, decodeField?_cons_self,
    decodeField?_cons_of_ne, decodeVariant_encodeVariant,
    decodeOperator_encodeOperator, decodeBoolean_boolean,
    decodeQualifiedType_encodeQualifiedType, parametersRead,
    decodeSharedDeclaration_append, map_ok, ok_bind, required, pure_eq_ok]

@[simp]
theorem decodeField_encodeField (field : Field) :
    decodeField (encodeField field) = .ok field := by
  rw [encodeField, decodeField]
  simp (disch := decide) only [decodeField?_behind_declaration,
    decodeField?_cons_self, decodeQualifiedType_encodeQualifiedType,
    decodeSharedDeclaration_append, map_ok, ok_bind, required, pure_eq_ok]

@[simp]
theorem decodeEvent_encodeEvent (event : Event) :
    decodeEvent (encodeEvent event) = .ok event := by
  have typesRead :=
    decodeList_encodeList decodeQualifiedType_encodeQualifiedType
      event.parameterTypes
  rw [encodeEvent, decodeEvent]
  simp (disch := decide) only [decodeFieldD_behind_declaration,
    decodeFieldD_cons_self, typesRead, decodeSharedDeclaration_append,
    ok_bind, pure_eq_ok]

@[simp]
theorem decodeClass_encodeClass (owner : Class) :
    decodeClass (encodeClass owner) = .ok owner := by
  have methodsRead :=
    decodeList_encodeList decodeMethod_encodeMethod owner.methods
  have fieldsRead :=
    decodeList_encodeList decodeField_encodeField owner.fields
  have eventsRead :=
    decodeList_encodeList decodeEvent_encodeEvent owner.events
  rw [encodeClass, decodeClass]
  simp (disch := decide) only [decodeFieldD_behind_declaration,
    decodeFieldD_cons_self, decodeFieldD_cons_of_ne, methodsRead,
    fieldsRead, eventsRead, decodeBoolean_boolean,
    decodeSharedDeclaration_append, ok_bind, pure_eq_ok]

@[simp]
theorem decodeUnit_encodeUnit (unit : CompilationUnit) :
    decodeUnit (encodeUnit unit) = .ok unit := by
  have classesRead :=
    decodeList_encodeList decodeClass_encodeClass unit.classes
  rw [encodeUnit, decodeUnit]
  simp (disch := decide) only [decodeFieldD_cons_self,
    decodeFieldD_cons_of_ne, decodeField?_cons_self, decodeString_string,
    classesRead, map_ok, ok_bind, required, pure_eq_ok]

/-- A value of every kind is read back from its JSON form. -/
theorem decode_encode_eq_ok (kind : Kind) (value : kind.Value) :
    decode kind (encode kind value) = .ok value := by
  cases kind with
  | unit => exact decodeUnit_encodeUnit value
  | nativeClass => exact decodeClass_encodeClass value
  | method => exact decodeMethod_encodeMethod value
  | field => exact decodeField_encodeField value
  | event => exact decodeEvent_encodeEvent value
  | parameter => exact decodeParameter_encodeParameter value
  | declaration => exact decodeDeclaration_encodeDeclaration value
  | qualifiedType => exact decodeQualifiedType_encodeQualifiedType value
  | type => exact decodeType_encodeType value
  | primitive => exact decodeVariant_encodeVariant (α := Primitive) value
  | operator => exact decodeVariant_encodeVariant (α := Operator) value
  | methodKind => exact decodeVariant_encodeVariant (α := MethodKind) value
  | conversion =>
      exact decodeVariant_encodeVariant (α := FunctionConversion) value
  | access => exact decodeVariant_encodeVariant (α := Access) value

/-- Different values of a kind have different JSON forms. -/
theorem encode_injective (kind : Kind) :
    Function.Injective (encode kind) := by
  intro left right sameForm
  have sameRead :
      (Except.ok left : Decoded kind.Value) = .ok right := by
    rw [← decode_encode_eq_ok kind left, sameForm,
      decode_encode_eq_ok kind right]
  injection sameRead

/-- The JSON form of a value says everything once and is read back as that
value, so it belongs to no other value of its kind; and writing what has been
read from any accepted JSON value changes nothing for the next reader. -/
theorem decode_encode (kind : Kind) :
    (∀ value : kind.Value,
        (encode kind value).HasDistinctKeys ∧
          decode kind (encode kind value) = .ok value) ∧
      Function.Injective (encode kind) ∧
      ∀ (json : Json) (value : kind.Value),
        decode kind json = .ok value →
          decode kind (encode kind value) = decode kind json := by
  refine ⟨?_, encode_injective kind, ?_⟩
  · intro value
    exact ⟨encode_distinctKeys kind value, decode_encode_eq_ok kind value⟩
  · intro json value accepted
    rw [accepted]
    exact decode_encode_eq_ok kind value

/-- A class with an unknown key, with its fields in another order than the
written one, and with most of them left out. -/
theorem decode_encode_sparse_class :
    let json : Json :=
      .object
        [("is_value_type", .boolean true), ("color", .null),
          ("name", .string "Point")]
    decode .nativeClass json = .ok (Class.named "Point").asValueType ∧
      decode .nativeClass
          (encode .nativeClass (Class.named "Point").asValueType) =
        decode .nativeClass json := by
  intro json
  have accepted :
      decode .nativeClass json =
        .ok (Class.named "Point").asValueType := rfl
  exact ⟨accepted, (decode_encode .nativeClass).2.2 json _ accepted⟩

end ManagedBinding.Schema
