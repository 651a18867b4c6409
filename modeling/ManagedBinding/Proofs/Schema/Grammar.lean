import ManagedBinding.Schema.Kind

/-!
# The JSON grammar of the model

The grammar says which JSON values stand for values of the model, without
saying how they are read.  A record is given by the table of its fields: their
keys in order, the form of each value, and which of them have a default.  The
same table is used in two ways.

* A record that is an object has to fill the required fields, and every field
  that it fills has to have the right form.  Its other keys are free.
* A record that is an array lists its fields in order.  Only fields with a
  default may be missing at its end, and nothing may follow the last field.

Types and qualified types contain each other, so their forms are defined by a
common induction.  The payload of an access level is left open in the records
that share the fields of their declaration.
-/

namespace ManagedBinding.Schema

inductive StringForm : Json → Prop
  | string (text : String) : StringForm (.string text)

inductive BooleanForm : Json → Prop
  | boolean (value : Bool) : BooleanForm (.boolean value)

inductive NullForm : Json → Prop
  | null : NullForm .null

inductive NullOrEmptyForm : Json → Prop
  | null : NullOrEmptyForm .null
  | empty : NullOrEmptyForm (.object [])

inductive ListForm (memberForm : Json → Prop) : Json → Prop
  | array {items : List Json} :
      (∀ item ∈ items, memberForm item) → ListForm memberForm (.array items)

inductive OptionalForm (presentForm : Json → Prop) : Json → Prop
  | absent : OptionalForm presentForm .null
  | present {json : Json} : presentForm json → OptionalForm presentForm json

/-- A value of an enumeration: its name alone, or an object whose only key is
the name. -/
inductive VariantForm (α : Type) [Vocabulary α] (payloadForm : Json → Prop) :
    Json → Prop
  | name {name : String} :
      name ∈ Vocabulary.names α → VariantForm α payloadForm (.string name)
  | onlyKey {name : String} {payload : Json} :
      name ∈ Vocabulary.names α → payloadForm payload →
      VariantForm α payloadForm (.object [(name, payload)])

/-- A field of a record, without or with a default. -/
inductive FieldRule
  | required (key : String) (form : Json → Prop)
  | defaulted (key : String) (form : Json → Prop)

/-- What a rule asks of the fields of an object. -/
def FieldRule.HoldsIn (fields : List (String × Json)) : FieldRule → Prop
  | .required key form =>
      ∃ json, fields.lookup key = some json ∧ form json
  | .defaulted key form =>
      ∀ json, fields.lookup key = some json → form json

/-- The items of an array are the fields of the rules, in their order. -/
inductive ItemsConform : List FieldRule → List Json → Prop
  | done : ItemsConform [] []
  | missing {key : String} {form : Json → Prop} {rules : List FieldRule} :
      ItemsConform rules [] → ItemsConform (.defaulted key form :: rules) []
  | required {key : String} {form : Json → Prop} {rules : List FieldRule}
      {item : Json} {items : List Json} :
      form item → ItemsConform rules items →
      ItemsConform (.required key form :: rules) (item :: items)
  | defaulted {key : String} {form : Json → Prop} {rules : List FieldRule}
      {item : Json} {items : List Json} :
      form item → ItemsConform rules items →
      ItemsConform (.defaulted key form :: rules) (item :: items)

/-- A record that shares its object with the fields of a declaration. -/
inductive ObjectForm (rules : List FieldRule) : Json → Prop
  | object {fields : List (String × Json)} :
      (∀ rule ∈ rules, rule.HoldsIn fields) →
      ObjectForm rules (.object fields)

/-- A record that stands for itself. -/
inductive RecordForm (rules : List FieldRule) : Json → Prop
  | object {fields : List (String × Json)} :
      (∀ rule ∈ rules, rule.HoldsIn fields) →
      RecordForm rules (.object fields)
  | array {items : List Json} :
      ItemsConform rules items → RecordForm rules (.array items)

section RecordForms

variable
  {rules : List FieldRule} {fields : List (String × Json)}
  {items : List Json}

theorem objectForm_iff :
    ObjectForm rules (.object fields) ↔
      ∀ rule ∈ rules, rule.HoldsIn fields := by
  constructor
  · intro conforms
    cases conforms with
    | object holds => exact holds
  · exact .object

theorem recordForm_object_iff :
    RecordForm rules (.object fields) ↔
      ∀ rule ∈ rules, rule.HoldsIn fields := by
  constructor
  · intro conforms
    cases conforms with
    | object holds => exact holds
  · exact .object

theorem recordForm_array_iff :
    RecordForm rules (.array items) ↔ ItemsConform rules items := by
  constructor
  · intro conforms
    cases conforms with
    | array conform => exact conform
  · exact .array

end RecordForms

mutual

inductive TypeForm : Json → Prop
  | builtin {payload : Json} :
      VariantForm Primitive NullForm payload →
      TypeForm (.object [("builtin", payload)])
  | tag {payload : Json} :
      StringForm payload → TypeForm (.object [("tag", payload)])
  | indirect (via : Indirection) {payload : Json} :
      QualifiedTypeForm payload →
      TypeForm (.object [(Vocabulary.name via, payload)])

inductive QualifiedTypeForm : Json → Prop
  | object {fields : List (String × Json)} {type : Json} :
      fields.lookup "type" = some type → TypeForm type →
      (∀ isConst, fields.lookup "is_const" = some isConst →
        BooleanForm isConst) →
      QualifiedTypeForm (.object fields)
  | unqualified {type : Json} :
      TypeForm type → QualifiedTypeForm (.array [type])
  | qualified {type isConst : Json} :
      TypeForm type → BooleanForm isConst →
      QualifiedTypeForm (.array [type, isConst])

end

theorem typeForm_onlyKey_iff {name : String} {payload : Json} :
    TypeForm (.object [(name, payload)]) ↔
      (name = "builtin" ∧ VariantForm Primitive NullForm payload) ∨
        (name = "tag" ∧ StringForm payload) ∨
        ((∃ via : Indirection, Vocabulary.name via = name) ∧
          QualifiedTypeForm payload) := by
  constructor
  · intro conforms
    cases conforms with
    | builtin holds => exact .inl ⟨rfl, holds⟩
    | tag holds => exact .inr (.inl ⟨rfl, holds⟩)
    | indirect via holds => exact .inr (.inr ⟨⟨via, rfl⟩, holds⟩)
  · intro choice
    rcases choice with
      ⟨rfl, holds⟩ | ⟨rfl, holds⟩ | ⟨⟨via, rfl⟩, holds⟩
    · exact .builtin holds
    · exact .tag holds
    · exact .indirect via holds

def qualifiedTypeRules : List FieldRule :=
  [.required "type" TypeForm, .defaulted "is_const" BooleanForm]

/-- A qualified type is a record like any other. -/
theorem qualifiedTypeForm_iff (json : Json) :
    QualifiedTypeForm json ↔ RecordForm qualifiedTypeRules json := by
  constructor
  · intro conforms
    cases conforms with
    | object found typeHolds constHolds =>
        rw [recordForm_object_iff, qualifiedTypeRules,
          List.forall_mem_cons, List.forall_mem_singleton]
        exact ⟨⟨_, found, typeHolds⟩, constHolds⟩
    | unqualified typeHolds =>
        exact .array (.required typeHolds (.missing .done))
    | qualified typeHolds constHolds =>
        exact .array (.required typeHolds (.defaulted constHolds .done))
  · intro conforms
    cases conforms with
    | object holds =>
        rw [qualifiedTypeRules, List.forall_mem_cons,
          List.forall_mem_singleton] at holds
        obtain ⟨⟨type, found, typeHolds⟩, constHolds⟩ := holds
        exact .object found typeHolds constHolds
    | array conform =>
        rcases conform with _ | _ | ⟨typeHolds, _ | _ | _ | ⟨constHolds, ⟨⟩⟩⟩
        · exact .unqualified typeHolds
        · exact .qualified typeHolds constHolds

def parameterRules : List FieldRule :=
  [.required "name" StringForm,
    .required "qualified_type" QualifiedTypeForm]

def declarationRules (accessPayload : Json → Prop) : List FieldRule :=
  [.required "name" StringForm,
    .defaulted "namespace" (ListForm StringForm),
    .defaulted "access" (VariantForm Access accessPayload),
    .defaulted "ignore" BooleanForm,
    .defaulted "comment" (OptionalForm StringForm)]

section SharedDeclarations

variable (sharedPayload : Json → Prop)

def methodRules : List FieldRule :=
  [.defaulted "kind" (VariantForm MethodKind NullForm),
    .defaulted "operator_kind"
      (OptionalForm (VariantForm Operator NullForm)),
    .defaulted "conversion" (VariantForm FunctionConversion NullForm),
    .defaulted "is_static" BooleanForm,
    .required "return_type" QualifiedTypeForm,
    .defaulted "parameters" (ListForm (RecordForm parameterRules))] ++
    declarationRules sharedPayload

def fieldRules : List FieldRule :=
  .required "qualified_type" QualifiedTypeForm ::
    declarationRules sharedPayload

def eventRules : List FieldRule :=
  .defaulted "parameters" (ListForm QualifiedTypeForm) ::
    declarationRules sharedPayload

def classRules : List FieldRule :=
  [.defaulted "is_value_type" BooleanForm,
    .defaulted "methods" (ListForm (ObjectForm (methodRules sharedPayload))),
    .defaulted "fields" (ListForm (ObjectForm (fieldRules sharedPayload))),
    .defaulted "events" (ListForm (ObjectForm (eventRules sharedPayload)))] ++
    declarationRules sharedPayload

def unitRules : List FieldRule :=
  [.required "file_name" StringForm,
    .defaulted "classes" (ListForm (ObjectForm (classRules sharedPayload)))]

/-- The form of the values of a kind, if the access level of a class or member
may have a payload of the given form. -/
def Conforms : Kind → Json → Prop
  | .unit => RecordForm (unitRules sharedPayload)
  | .nativeClass => ObjectForm (classRules sharedPayload)
  | .method => ObjectForm (methodRules sharedPayload)
  | .field => ObjectForm (fieldRules sharedPayload)
  | .event => ObjectForm (eventRules sharedPayload)
  | .parameter => RecordForm parameterRules
  | .declaration => RecordForm (declarationRules NullForm)
  | .qualifiedType => RecordForm qualifiedTypeRules
  | .type => TypeForm
  | .primitive => VariantForm Primitive NullForm
  | .operator => VariantForm Operator NullForm
  | .methodKind => VariantForm MethodKind NullForm
  | .conversion => VariantForm FunctionConversion NullForm
  | .access => VariantForm Access NullForm

end SharedDeclarations

end ManagedBinding.Schema
