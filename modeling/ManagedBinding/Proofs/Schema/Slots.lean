import ManagedBinding.Proofs.Schema.Readers
import Mathlib.Data.List.Nodup

/-!
# What a record says

A record is described by the table of its slots, in the order of its
declaration.  A slot is a key with what stands under it, the default if there
is one, and the part of the record that it gives.  An object says a record
exactly if each slot fits what the object has under its key, and an array says
what the object says that has the keys in front of its items.

So the table is all that later arguments need to know about a decoder: two
objects that fit the same slots are read alike.
-/

namespace ManagedBinding.Schema

variable {α β ρ σ : Type}

/-- What may stand at a position of a document. -/
inductive Place
  | string
  | boolean
  | names
  | comment
  | overload
  | memberAccess
  | value (kind : Kind)
  | list (kind : Kind)

def Place.Value : Place → Type
  | .string => String
  | .boolean => Bool
  | .names => List String
  | .comment => Option String
  | .overload => Option Operator
  | .memberAccess => Access
  | .value kind => kind.Value
  | .list kind => List kind.Value

def Place.decode : (place : Place) → Json → Decoded place.Value
  | .string => decodeString
  | .boolean => decodeBoolean
  | .names => decodeList decodeString
  | .comment => decodeOption decodeString
  | .overload => decodeOption (decodeVariant : Json → Decoded Operator)
  | .memberAccess =>
      (decodeVariantWith isNullOrEmpty : Json → Decoded Access)
  | .value kind => Schema.decode kind
  | .list kind => decodeList (Schema.decode kind)

/-- What an object has under a key, if anything, is read as the value; where
it has nothing, the value is the default. -/
def Gives
    (decode : Json → Decoded α) (default? : Option α) (value : α) :
    Option Json → Prop
  | some json => decode json = .ok value
  | none => default? = some value

/-- A field of a record. -/
structure Slot (ρ : Type) where
  key : String
  place : Place
  default? : Option place.Value
  part : ρ → place.Value

namespace Slot

/-- What an object has under the key of the slot gives the slot's part of the
record. -/
def Fits (slot : Slot ρ) (record : ρ) (json? : Option Json) : Prop :=
  Gives slot.place.decode slot.default? (slot.part record) json?

/-- The JSON value is read as the default of the slot. -/
def IsDefault (slot : Slot ρ) (json : Json) : Prop :=
  ∃ default, slot.default? = some default ∧
    slot.place.decode json = .ok default

/-- The slot of a record inside another one. -/
def within (inner : σ → ρ) (slot : Slot ρ) : Slot σ where
  key := slot.key
  place := slot.place
  default? := slot.default?
  part := slot.part ∘ inner

/-- A default value says as much as no value. -/
theorem fits_default_iff
    {slot : Slot ρ} {json : Json} (isDefault : slot.IsDefault json)
    (record : ρ) :
    slot.Fits record (some json) ↔ slot.Fits record none := by
  obtain ⟨default, defaultEq, read⟩ := isDefault
  rw [Fits, Fits, Gives, Gives, read, defaultEq, Except.ok.injEq,
    Option.some.injEq]

end Slot

def qualifiedTypeSlots : List (Slot QualifiedType) :=
  [⟨"type", .value .type, none, QualifiedType.type⟩,
    ⟨"is_const", .boolean, some false, QualifiedType.isConst⟩]

def parameterSlots : List (Slot Parameter) :=
  [⟨"name", .string, none, Parameter.name⟩,
    ⟨"qualified_type", .value .qualifiedType, none, Parameter.type⟩]

/-- The slots of a declaration, around the one for its access level. -/
def declarationSlots (access : Slot Declaration) :
    List (Slot Declaration) :=
  [⟨"name", .string, none, Declaration.name⟩,
    ⟨"namespace", .names, some [], Declaration.scopes⟩,
    access,
    ⟨"ignore", .boolean, some false, Declaration.ignored⟩,
    ⟨"comment", .comment, some none, Declaration.comment⟩]

def ownAccess : Slot Declaration :=
  ⟨"access", .value .access, some Access.publicAccess, Declaration.access⟩

/-- The access level among the fields of a class or member. -/
def sharedAccess : Slot Declaration :=
  ⟨"access", .memberAccess, some Access.publicAccess, Declaration.access⟩

/-- The slots that a class or member has for its declaration. -/
def sharedSlots (declaration : ρ → Declaration) : List (Slot ρ) :=
  (declarationSlots sharedAccess).map (Slot.within declaration)

def methodSlots : List (Slot Method) :=
  [⟨"kind", .value .methodKind, some MethodKind.normal, Method.kind⟩,
    ⟨"operator_kind", .overload, some none, Method.operator⟩,
    ⟨"conversion", .value .conversion, some FunctionConversion.none,
      Method.conversion⟩,
    ⟨"is_static", .boolean, some false, Method.isStatic⟩,
    ⟨"return_type", .value .qualifiedType, none, Method.returnType⟩,
    ⟨"parameters", .list .parameter, some [], Method.parameters⟩] ++
    sharedSlots Method.declaration

def fieldSlots : List (Slot Field) :=
  [⟨"qualified_type", .value .qualifiedType, none, Field.type⟩] ++
    sharedSlots Field.declaration

def eventSlots : List (Slot Event) :=
  [⟨"parameters", .list .qualifiedType, some [], Event.parameterTypes⟩] ++
    sharedSlots Event.declaration

def classSlots : List (Slot Class) :=
  [⟨"is_value_type", .boolean, some false, Class.isValueType⟩,
    ⟨"methods", .list .method, some [], Class.methods⟩,
    ⟨"fields", .list .field, some [], Class.fields⟩,
    ⟨"events", .list .event, some [], Class.events⟩] ++
    sharedSlots Class.declaration

def unitSlots : List (Slot CompilationUnit) :=
  [⟨"file_name", .string, none, CompilationUnit.fileName⟩,
    ⟨"classes", .list .nativeClass, some [], CompilationUnit.classes⟩]

namespace Record

/-- The kind of the values of a record. -/
def kind : Record → Kind
  | .compilationUnit => .unit
  | .nativeClass => .nativeClass
  | .method => .method
  | .field => .field
  | .event => .event
  | .parameter => .parameter
  | .declaration => .declaration
  | .qualifiedType => .qualifiedType

def slots : (record : Record) → List (Slot record.kind.Value)
  | .compilationUnit => unitSlots
  | .nativeClass => classSlots
  | .method => methodSlots
  | .field => fieldSlots
  | .event => eventSlots
  | .parameter => parameterSlots
  | .declaration => declarationSlots ownAccess
  | .qualifiedType => qualifiedTypeSlots

/-- The keys of a record in the order of its declaration. -/
def keys (record : Record) : List String :=
  record.slots.map Slot.key

/-- The record may also be an array of its fields. -/
def isPositional : Record → Bool
  | .compilationUnit | .parameter | .declaration | .qualifiedType => true
  | .nativeClass | .method | .field | .event => false

/-- The JSON value is read as the default of the field with the key. -/
def HasDefault (record : Record) (key : String) (json : Json) : Prop :=
  ∃ slot ∈ record.slots, slot.key = key ∧ slot.IsDefault json

theorem keys_nodup (record : Record) : record.keys.Nodup := by
  cases record <;> decide

theorem slot_eq_of_key_eq
    {record : Record} {left right : Slot record.kind.Value}
    (leftMember : left ∈ record.slots) (rightMember : right ∈ record.slots)
    (sameKey : left.key = right.key) :
    left = right :=
  List.inj_on_of_nodup_map record.keys_nodup leftMember rightMember sameKey

end Record

/-! ## Readers and what they find -/

theorem bind_eq_ok_iff
    {decoded : Decoded α} {next : α → Decoded β} {value : β} :
    decoded >>= next = .ok value ↔
      ∃ first, decoded = .ok first ∧ next first = .ok value := by
  cases decoded with
  | error fault =>
      constructor
      · intro equality
        cases equality
      · rintro ⟨first, equality, _⟩
        cases equality
  | ok first =>
      rw [ok_bind]
      constructor
      · intro equality
        exact ⟨first, rfl, equality⟩
      · rintro ⟨other, equality, rest⟩
        cases equality
        exact rest

section FieldReaders

variable
  {fields : List (String × Json)} {key : String}
  {decode : Json → Decoded α} {default value : α}

theorem decodeFieldD_eq_ok_iff :
    decodeFieldD fields key decode default = .ok value ↔
      Gives decode (some default) value (fields.lookup key) := by
  rw [decodeFieldD]
  cases fields.lookup key with
  | none => rw [Gives, Except.ok.injEq, Option.some.injEq]
  | some json => rfl

theorem decodeField?_eq_ok_some_iff :
    decodeField? fields key decode = .ok (some value) ↔
      Gives decode none value (fields.lookup key) := by
  rw [decodeField?]
  cases fields.lookup key with
  | none => simp [Gives]
  | some json =>
      change
        (decode json).map some = .ok (some value) ↔ decode json = .ok value
      cases decode json with
      | error fault => simp [Except.map]
      | ok found => simp

theorem required_eq_ok_iff {found : Option α} :
    required key found = .ok value ↔ found = some value := by
  cases found with
  | none => simp [required]
  | some found => simp [required]

end FieldReaders

section Objects

variable {fields : List (String × Json)}

theorem decodeQualifiedType_object_iff {type : QualifiedType} :
    decodeQualifiedType (.object fields) = .ok type ↔
      ∀ slot ∈ qualifiedTypeSlots,
        slot.Fits type (fields.lookup slot.key) := by
  simp only [qualifiedTypeSlots, List.forall_mem_cons,
    decodeQualifiedType_object, bind_eq_ok_iff, required_eq_ok_iff,
    decodeFieldD_eq_ok_iff, pure_eq_ok, Except.ok.injEq]
  constructor
  · rintro ⟨isConst, isConstGiven, _, typeAsked, bare, rfl, rfl⟩
    rw [decodeField?_eq_ok_some_iff] at typeAsked
    exact ⟨typeAsked, isConstGiven, List.forall_mem_nil _⟩
  · rintro ⟨typeGiven, isConstGiven, _⟩
    have typeAsked := decodeField?_eq_ok_some_iff.mpr typeGiven
    exact ⟨_, isConstGiven, _, typeAsked, _, rfl, rfl⟩

theorem decodeDeclarationFields_iff
    {decodeAccess : Json → Decoded Access} {declaration : Declaration} :
    decodeDeclarationFields decodeAccess fields = .ok declaration ↔
      Gives decodeString none declaration.name (fields.lookup "name") ∧
        Gives (decodeList decodeString) (some []) declaration.scopes
          (fields.lookup "namespace") ∧
        Gives decodeAccess (some .publicAccess) declaration.access
          (fields.lookup "access") ∧
        Gives decodeBoolean (some false) declaration.ignored
          (fields.lookup "ignore") ∧
        Gives (decodeOption decodeString) (some none) declaration.comment
          (fields.lookup "comment") := by
  simp only [decodeDeclarationFields, bind_eq_ok_iff, required_eq_ok_iff,
    decodeFieldD_eq_ok_iff, pure_eq_ok, Except.ok.injEq]
  constructor
  · rintro ⟨access, accessGiven, comment, commentGiven, ignored,
      ignoredGiven, _, nameAsked, scopes, scopesGiven, name, rfl, rfl⟩
    rw [decodeField?_eq_ok_some_iff] at nameAsked
    exact ⟨nameAsked, scopesGiven, accessGiven, ignoredGiven, commentGiven⟩
  · rintro ⟨nameGiven, scopesGiven, accessGiven, ignoredGiven,
      commentGiven⟩
    rw [← decodeField?_eq_ok_some_iff] at nameGiven
    exact ⟨_, accessGiven, _, commentGiven, _, ignoredGiven, _, nameGiven,
      _, scopesGiven, _, rfl, rfl⟩

theorem decodeSharedDeclaration_iff
    {record : ρ} {declaration : ρ → Declaration} :
    decodeSharedDeclaration fields = .ok (declaration record) ↔
      ∀ slot ∈ sharedSlots declaration,
        slot.Fits record (fields.lookup slot.key) := by
  simp only [sharedSlots, declarationSlots, List.map_cons, List.map_nil,
    List.forall_mem_cons, List.not_mem_nil, false_implies, implies_true, and_true]
  exact decodeDeclarationFields_iff

theorem decodeMethod_object_iff {method : Method} :
    decodeMethod (.object fields) = .ok method ↔
      ∀ slot ∈ methodSlots, slot.Fits method (fields.lookup slot.key) := by
  simp only [methodSlots, List.forall_mem_append, List.forall_mem_cons,
    ← decodeSharedDeclaration_iff, decodeMethod, bind_eq_ok_iff,
    required_eq_ok_iff, decodeFieldD_eq_ok_iff, pure_eq_ok, Except.ok.injEq]
  constructor
  · rintro ⟨conversion, conversionGiven, isStatic, isStaticGiven, kind,
      kindGiven, operator, operatorGiven, parameters, parametersGiven, _,
      typeAsked, returnType, rfl, declaration, declared, rfl⟩
    have typeGiven := decodeField?_eq_ok_some_iff.mp typeAsked
    exact ⟨⟨kindGiven, operatorGiven, conversionGiven, isStaticGiven,
      typeGiven, parametersGiven, List.forall_mem_nil _⟩, declared⟩
  · rintro ⟨⟨kindGiven, operatorGiven, conversionGiven, isStaticGiven,
      typeGiven, parametersGiven, _⟩, declared⟩
    have typeAsked := decodeField?_eq_ok_some_iff.mpr typeGiven
    exact ⟨_, conversionGiven, _, isStaticGiven, _, kindGiven, _,
      operatorGiven, _, parametersGiven, _, typeAsked, _, rfl, _, declared,
      rfl⟩

theorem decodeField_object_iff {field : Field} :
    decodeField (.object fields) = .ok field ↔
      ∀ slot ∈ fieldSlots, slot.Fits field (fields.lookup slot.key) := by
  simp only [fieldSlots, List.forall_mem_append, List.forall_mem_singleton,
    ← decodeSharedDeclaration_iff, decodeField, bind_eq_ok_iff,
    required_eq_ok_iff, pure_eq_ok, Except.ok.injEq]
  constructor
  · rintro ⟨_, typeAsked, type, rfl, declaration, declared, rfl⟩
    have typeGiven := decodeField?_eq_ok_some_iff.mp typeAsked
    exact ⟨typeGiven, declared⟩
  · rintro ⟨typeGiven, declared⟩
    have typeAsked := decodeField?_eq_ok_some_iff.mpr typeGiven
    exact ⟨_, typeAsked, _, rfl, _, declared, rfl⟩

theorem decodeEvent_object_iff {event : Event} :
    decodeEvent (.object fields) = .ok event ↔
      ∀ slot ∈ eventSlots, slot.Fits event (fields.lookup slot.key) := by
  simp only [eventSlots, List.forall_mem_append, List.forall_mem_singleton,
    ← decodeSharedDeclaration_iff, decodeEvent, bind_eq_ok_iff,
    decodeFieldD_eq_ok_iff, pure_eq_ok, Except.ok.injEq]
  constructor
  · rintro ⟨types, typesGiven, declaration, declared, rfl⟩
    exact ⟨typesGiven, declared⟩
  · rintro ⟨typesGiven, declared⟩
    exact ⟨_, typesGiven, _, declared, rfl⟩

theorem decodeClass_object_iff {owner : Class} :
    decodeClass (.object fields) = .ok owner ↔
      ∀ slot ∈ classSlots, slot.Fits owner (fields.lookup slot.key) := by
  simp only [classSlots, List.forall_mem_append, List.forall_mem_cons,
    ← decodeSharedDeclaration_iff, decodeClass, bind_eq_ok_iff,
    decodeFieldD_eq_ok_iff, pure_eq_ok, Except.ok.injEq]
  constructor
  · rintro ⟨events, eventsGiven, members, membersGiven, isValueType,
      isValueTypeGiven, methods, methodsGiven, declaration, declared, rfl⟩
    exact ⟨⟨isValueTypeGiven, methodsGiven, membersGiven, eventsGiven,
      List.forall_mem_nil _⟩, declared⟩
  · rintro ⟨⟨isValueTypeGiven, methodsGiven, membersGiven, eventsGiven, _⟩,
      declared⟩
    exact ⟨_, eventsGiven, _, membersGiven, _, isValueTypeGiven, _,
      methodsGiven, _, declared, rfl⟩

theorem decodeParameter_object_iff {parameter : Parameter} :
    decodeParameter (.object fields) = .ok parameter ↔
      ∀ slot ∈ parameterSlots,
        slot.Fits parameter (fields.lookup slot.key) := by
  simp only [parameterSlots, List.forall_mem_cons, decodeParameter,
    bind_eq_ok_iff, required_eq_ok_iff, pure_eq_ok, Except.ok.injEq]
  constructor
  · rintro ⟨_, nameAsked, _, typeAsked, name, rfl, type, rfl, rfl⟩
    have nameGiven := decodeField?_eq_ok_some_iff.mp nameAsked
    have typeGiven := decodeField?_eq_ok_some_iff.mp typeAsked
    exact ⟨nameGiven, typeGiven, List.forall_mem_nil _⟩
  · rintro ⟨nameGiven, typeGiven, _⟩
    have nameAsked := decodeField?_eq_ok_some_iff.mpr nameGiven
    have typeAsked := decodeField?_eq_ok_some_iff.mpr typeGiven
    exact ⟨_, nameAsked, _, typeAsked, _, rfl, _, rfl, rfl⟩

theorem decodeUnit_object_iff {unit : CompilationUnit} :
    decodeUnit (.object fields) = .ok unit ↔
      ∀ slot ∈ unitSlots, slot.Fits unit (fields.lookup slot.key) := by
  simp only [unitSlots, List.forall_mem_cons, decodeUnit, bind_eq_ok_iff,
    required_eq_ok_iff, decodeFieldD_eq_ok_iff, pure_eq_ok,
    Except.ok.injEq]
  constructor
  · rintro ⟨classes, classesGiven, _, nameAsked, name, rfl, rfl⟩
    have nameGiven := decodeField?_eq_ok_some_iff.mp nameAsked
    exact ⟨nameGiven, classesGiven, List.forall_mem_nil _⟩
  · rintro ⟨nameGiven, classesGiven, _⟩
    have nameAsked := decodeField?_eq_ok_some_iff.mpr nameGiven
    exact ⟨_, classesGiven, _, nameAsked, _, rfl, rfl⟩

theorem decodeDeclaration_object_iff {declaration : Declaration} :
    decodeDeclaration (.object fields) = .ok declaration ↔
      ∀ slot ∈ declarationSlots ownAccess,
        slot.Fits declaration (fields.lookup slot.key) := by
  simp only [declarationSlots, List.forall_mem_cons, List.not_mem_nil,
    false_implies, implies_true, and_true]
  exact decodeDeclarationFields_iff

/-- An object says a record exactly if every slot of the record fits what the
object has under its key. -/
theorem decode_object_iff (record : Record) {value : record.kind.Value} :
    decode record.kind (.object fields) = .ok value ↔
      ∀ slot ∈ record.slots, slot.Fits value (fields.lookup slot.key) := by
  cases record with
  | compilationUnit => exact decodeUnit_object_iff
  | nativeClass => exact decodeClass_object_iff
  | method => exact decodeMethod_object_iff
  | field => exact decodeField_object_iff
  | event => exact decodeEvent_object_iff
  | parameter => exact decodeParameter_object_iff
  | declaration => exact decodeDeclaration_object_iff
  | qualifiedType => exact decodeQualifiedType_object_iff

end Objects

/-! ## Arrays -/

section Arrays

variable {items : List Json}

theorem lookup_zip
    {keys : List String} (distinct : keys.Nodup)
    {index : Nat} {key : String} (atIndex : keys[index]? = some key) :
    (keys.zip items).lookup key = items[index]? := by
  induction keys generalizing index items with
  | nil => simp at atIndex
  | cons first rest inductionHypothesis =>
      have parts := List.nodup_cons.mp distinct
      cases items with
      | nil => simp
      | cons item later =>
          rw [List.zip_cons_cons, List.lookup_cons]
          cases index with
          | zero =>
              have same : first = key := by simpa using atIndex
              simp [same]
          | succ index =>
              have inRest : rest[index]? = some key := by
                simpa using atIndex
              have different : key ≠ first := by
                intro equality
                rw [equality] at inRest
                exact parts.1 (List.mem_of_getElem? inRest)
              rw [beq_false_of_ne different]
              simpa using inductionHypothesis parts.2 inRest

/-- With the keys of a record in front, an item of an array is found under the
key at its position. -/
theorem lookup_keys_zip
    (record : Record) (items : List Json) (index : Nat) (key : String)
    (atIndex : record.keys[index]? = some key) :
    (record.keys.zip items).lookup key = items[index]? :=
  lookup_zip record.keys_nodup atIndex

theorem decodeItemD_eq_ok_iff
    {index : Nat} {decode : Json → Decoded α} {default value : α} :
    decodeItemD items index decode default = .ok value ↔
      Gives decode (some default) value items[index]? := by
  rw [decodeItemD]
  cases items[index]? with
  | none => rw [Gives, Except.ok.injEq, Option.some.injEq]
  | some json => rfl

theorem atMost_eq_ok_iff {size length : Nat} {value : Unit} :
    atMost size length = .ok value ↔ length ≤ size := by
  rw [atMost]
  split
  · next fits => exact iff_of_true rfl fits
  · next exceeds => simpa using exceeds

theorem decodeQualifiedType_array_iff {type : QualifiedType} :
    decodeQualifiedType (.array items) = .ok type ↔
      items.length ≤ 2 ∧
        ∀ slot ∈ qualifiedTypeSlots,
          slot.Fits type
            (((Record.keys .qualifiedType).zip items).lookup slot.key) := by
  simp only [qualifiedTypeSlots, List.forall_mem_cons,
    lookup_keys_zip .qualifiedType items 0 "type" rfl,
    lookup_keys_zip .qualifiedType items 1 "is_const" rfl]
  cases items with
  | nil =>
      simp [decodeQualifiedType, Slot.Fits, Gives]
  | cons bare rest =>
      simp only [decodeQualifiedType, bind_eq_ok_iff, decodeItemD_eq_ok_iff,
        atMost_eq_ok_iff, pure_eq_ok, Except.ok.injEq]
      constructor
      · rintro ⟨_, typeRead, _, constGiven, _, fits, rfl⟩
        exact ⟨fits, typeRead, constGiven, List.forall_mem_nil _⟩
      · rintro ⟨fits, typeRead, constGiven, _⟩
        exact ⟨_, typeRead, _, constGiven, (), fits, rfl⟩

theorem decodeParameter_array_iff {parameter : Parameter} :
    decodeParameter (.array items) = .ok parameter ↔
      items.length ≤ 2 ∧
        ∀ slot ∈ parameterSlots,
          slot.Fits parameter
            (((Record.keys .parameter).zip items).lookup slot.key) := by
  simp only [parameterSlots, List.forall_mem_cons,
    lookup_keys_zip .parameter items 0 "name" rfl,
    lookup_keys_zip .parameter items 1 "qualified_type" rfl]
  rcases items with _ | ⟨name, _ | ⟨type, rest⟩⟩
  · simp [decodeParameter, Slot.Fits, Gives]
  · simp [decodeParameter, bind_eq_ok_iff, Slot.Fits, Gives]
  · simp only [decodeParameter, bind_eq_ok_iff, atMost_eq_ok_iff,
      pure_eq_ok, Except.ok.injEq]
    constructor
    · rintro ⟨_, nameRead, _, typeRead, _, fits, rfl⟩
      exact ⟨fits, nameRead, typeRead, List.forall_mem_nil _⟩
    · rintro ⟨fits, nameRead, typeRead, _⟩
      exact ⟨_, nameRead, _, typeRead, (), fits, rfl⟩

theorem decodeDeclaration_array_iff {declaration : Declaration} :
    decodeDeclaration (.array items) = .ok declaration ↔
      items.length ≤ 5 ∧
        ∀ slot ∈ declarationSlots ownAccess,
          slot.Fits declaration
            (((Record.keys .declaration).zip items).lookup slot.key) := by
  simp only [declarationSlots, ownAccess, List.forall_mem_cons,
    lookup_keys_zip .declaration items 0 "name" rfl,
    lookup_keys_zip .declaration items 1 "namespace" rfl,
    lookup_keys_zip .declaration items 2 "access" rfl,
    lookup_keys_zip .declaration items 3 "ignore" rfl,
    lookup_keys_zip .declaration items 4 "comment" rfl]
  cases items with
  | nil =>
      simp [decodeDeclaration, Slot.Fits, Gives]
  | cons name rest =>
      simp only [decodeDeclaration, bind_eq_ok_iff, decodeItemD_eq_ok_iff,
        atMost_eq_ok_iff, pure_eq_ok, Except.ok.injEq]
      constructor
      · rintro ⟨_, nameRead, _, scopesGiven, _, accessGiven, _,
          ignoredGiven, _, commentGiven, _, fits, rfl⟩
        exact ⟨fits, nameRead, scopesGiven, accessGiven, ignoredGiven,
          commentGiven, List.forall_mem_nil _⟩
      · rintro ⟨fits, nameRead, scopesGiven, accessGiven, ignoredGiven,
          commentGiven, _⟩
        exact ⟨_, nameRead, _, scopesGiven, _, accessGiven, _,
          ignoredGiven, _, commentGiven, (), fits, rfl⟩

theorem decodeUnit_array_iff {unit : CompilationUnit} :
    decodeUnit (.array items) = .ok unit ↔
      items.length ≤ 2 ∧
        ∀ slot ∈ unitSlots,
          slot.Fits unit
            (((Record.keys .compilationUnit).zip items).lookup
              slot.key) := by
  simp only [unitSlots, List.forall_mem_cons,
    lookup_keys_zip .compilationUnit items 0 "file_name" rfl,
    lookup_keys_zip .compilationUnit items 1 "classes" rfl]
  cases items with
  | nil =>
      simp [decodeUnit, Slot.Fits, Gives]
  | cons name rest =>
      simp only [decodeUnit, bind_eq_ok_iff, decodeItemD_eq_ok_iff,
        atMost_eq_ok_iff, pure_eq_ok, Except.ok.injEq]
      constructor
      · rintro ⟨_, nameRead, _, classesGiven, _, fits, rfl⟩
        exact ⟨fits, nameRead, classesGiven, List.forall_mem_nil _⟩
      · rintro ⟨fits, nameRead, classesGiven, _⟩
        exact ⟨_, nameRead, _, classesGiven, (), fits, rfl⟩

/-- An array says what the object says that has the keys of the record in
front of the items, and it may not be longer than the record.  The records
that contain a declaration are never arrays. -/
theorem decode_array_iff (record : Record) {value : record.kind.Value} :
    decode record.kind (.array items) = .ok value ↔
      record.isPositional = true ∧ items.length ≤ record.keys.length ∧
        decode record.kind (.object (record.keys.zip items)) =
          .ok value := by
  rw [decode_object_iff]
  cases record with
  | compilationUnit =>
      exact decodeUnit_array_iff.trans (and_iff_right rfl).symm
  | parameter =>
      exact decodeParameter_array_iff.trans (and_iff_right rfl).symm
  | declaration =>
      exact decodeDeclaration_array_iff.trans (and_iff_right rfl).symm
  | qualifiedType =>
      exact decodeQualifiedType_array_iff.trans (and_iff_right rfl).symm
  | _ =>
      refine iff_of_false ?_ ?_
      · intro equality
        cases equality
      · intro parts
        cases parts.1

end Arrays

end ManagedBinding.Schema
