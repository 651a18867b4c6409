import ManagedBinding.Proofs.Json.DistinctKeys
import ManagedBinding.Proofs.Schema.Readers

/-!
# The keys of written records

Everything that is written has pairwise distinct keys, at every depth.  For
the records that contain a declaration this says that the declaration and the
record around it never claim the same key.
-/

namespace ManagedBinding.Schema

open Json (HasDistinctKeys)

theorem encodeVariant_distinctKeys {α : Type} [Vocabulary α] (value : α) :
    (encodeVariant value).HasDistinctKeys :=
  .string (Vocabulary.name value)

theorem encodeOption_distinctKeys
    {α : Type} {encode : α → Json}
    (distinct : ∀ item, (encode item).HasDistinctKeys)
    (item : Option α) :
    (encodeOption encode item).HasDistinctKeys := by
  cases item with
  | none =>
      exact .null
  | some value =>
      exact distinct value

theorem encodeList_distinctKeys
    {α : Type} {encode : α → Json}
    (distinct : ∀ item, (encode item).HasDistinctKeys)
    (items : List α) :
    (encodeList encode items).HasDistinctKeys :=
  HasDistinctKeys.array_map distinct items

theorem qualifiedTypeObject_distinctKeys
    {type : Json} (isConst : Bool) (distinct : type.HasDistinctKeys) :
    (qualifiedTypeObject type isConst).HasDistinctKeys := by
  refine .object _ (by simp) ?_
  simp only [List.forall_mem_cons]
  exact ⟨distinct, .boolean isConst, by simp⟩

theorem encodeType_distinctKeys (type : NativeType) :
    (encodeType type).HasDistinctKeys := by
  induction type with
  | builtin primitive =>
      exact .singleton "builtin" (encodeVariant_distinctKeys primitive)
  | tag name =>
      exact .singleton "tag" (.string name)
  | indirect via target targetIsConst inductionHypothesis =>
      exact .singleton (Vocabulary.name via) <|
        qualifiedTypeObject_distinctKeys targetIsConst inductionHypothesis

theorem encodeQualifiedType_distinctKeys (type : QualifiedType) :
    (encodeQualifiedType type).HasDistinctKeys :=
  qualifiedTypeObject_distinctKeys type.isConst
    (encodeType_distinctKeys type.type)

theorem encodeParameter_distinctKeys (parameter : Parameter) :
    (encodeParameter parameter).HasDistinctKeys := by
  refine .object _ (by simp) ?_
  simp only [List.forall_mem_cons]
  exact ⟨.string parameter.name,
    encodeQualifiedType_distinctKeys parameter.type, by simp⟩

theorem declarationFields_distinctKeys (declaration : Declaration) :
    ∀ field ∈ declarationFields declaration, field.2.HasDistinctKeys := by
  simp only [declarationFields, List.forall_mem_cons]
  exact ⟨.string declaration.name,
    encodeList_distinctKeys .string declaration.scopes,
    encodeVariant_distinctKeys declaration.access,
    .boolean declaration.ignored,
    encodeOption_distinctKeys .string declaration.comment, by simp⟩

/-- A record around a declaration says everything once if its own keys are
distinct from each other and from those of the declaration. -/
theorem declared_distinctKeys
    (declaration : Declaration) (ownKeys : List String)
    {own : List (String × Json)}
    (keys : own.map Prod.fst = ownKeys)
    (disjoint : (declarationKeys ++ ownKeys).Nodup)
    (distinct : ∀ field ∈ own, field.2.HasDistinctKeys) :
    (Json.object (declarationFields declaration ++ own)).HasDistinctKeys := by
  refine .object _ ?_ ?_
  · rw [List.map_append, declarationFields_keys, keys]
    exact disjoint
  · rw [List.forall_mem_append]
    exact ⟨declarationFields_distinctKeys declaration, distinct⟩

theorem encodeDeclaration_distinctKeys (declaration : Declaration) :
    (encodeDeclaration declaration).HasDistinctKeys := by
  have emptyOwn :
      ∀ field ∈ ([] : List (String × Json)), field.2.HasDistinctKeys := by
    simp
  have distinct :=
    declared_distinctKeys declaration [] rfl (by decide) emptyOwn
  rw [List.append_nil] at distinct
  exact distinct

theorem encodeMethod_distinctKeys (method : Method) :
    (encodeMethod method).HasDistinctKeys := by
  refine declared_distinctKeys method.declaration
    ["kind", "operator_kind", "conversion", "is_static", "return_type",
      "parameters"] rfl (by decide) ?_
  simp only [List.forall_mem_cons]
  exact ⟨encodeVariant_distinctKeys method.kind,
    encodeOption_distinctKeys encodeVariant_distinctKeys method.operator,
    encodeVariant_distinctKeys method.conversion,
    .boolean method.isStatic,
    encodeQualifiedType_distinctKeys method.returnType,
    encodeList_distinctKeys encodeParameter_distinctKeys method.parameters,
    by simp⟩

theorem encodeField_distinctKeys (field : Field) :
    (encodeField field).HasDistinctKeys := by
  refine declared_distinctKeys field.declaration
    ["qualified_type"] rfl (by decide) ?_
  simp only [List.forall_mem_cons]
  exact ⟨encodeQualifiedType_distinctKeys field.type, by simp⟩

theorem encodeEvent_distinctKeys (event : Event) :
    (encodeEvent event).HasDistinctKeys := by
  refine declared_distinctKeys event.declaration
    ["parameters"] rfl (by decide) ?_
  simp only [List.forall_mem_cons]
  exact ⟨encodeList_distinctKeys encodeQualifiedType_distinctKeys
    event.parameterTypes, by simp⟩

theorem encodeClass_distinctKeys (owner : Class) :
    (encodeClass owner).HasDistinctKeys := by
  refine declared_distinctKeys owner.declaration
    ["is_value_type", "methods", "fields", "events"] rfl (by decide) ?_
  simp only [List.forall_mem_cons]
  exact ⟨.boolean owner.isValueType,
    encodeList_distinctKeys encodeMethod_distinctKeys owner.methods,
    encodeList_distinctKeys encodeField_distinctKeys owner.fields,
    encodeList_distinctKeys encodeEvent_distinctKeys owner.events, by simp⟩

theorem encodeUnit_distinctKeys (unit : CompilationUnit) :
    (encodeUnit unit).HasDistinctKeys := by
  refine .object _ (by simp) ?_
  simp only [List.forall_mem_cons]
  exact ⟨.string unit.fileName,
    encodeList_distinctKeys encodeClass_distinctKeys unit.classes, by simp⟩

/-- Whatever is written says everything once. -/
theorem encode_distinctKeys (kind : Kind) (value : kind.Value) :
    (encode kind value).HasDistinctKeys := by
  cases kind with
  | unit => exact encodeUnit_distinctKeys value
  | nativeClass => exact encodeClass_distinctKeys value
  | method => exact encodeMethod_distinctKeys value
  | field => exact encodeField_distinctKeys value
  | event => exact encodeEvent_distinctKeys value
  | parameter => exact encodeParameter_distinctKeys value
  | declaration => exact encodeDeclaration_distinctKeys value
  | qualifiedType => exact encodeQualifiedType_distinctKeys value
  | type => exact encodeType_distinctKeys value
  | primitive => exact encodeVariant_distinctKeys (α := Primitive) value
  | operator => exact encodeVariant_distinctKeys (α := Operator) value
  | methodKind => exact encodeVariant_distinctKeys (α := MethodKind) value
  | conversion =>
      exact encodeVariant_distinctKeys (α := FunctionConversion) value
  | access => exact encodeVariant_distinctKeys (α := Access) value

end ManagedBinding.Schema
