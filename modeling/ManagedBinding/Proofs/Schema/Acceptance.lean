import ManagedBinding.Proofs.Schema.Grammar
import ManagedBinding.Proofs.Schema.RoundTrip
import Mathlib.Tactic.Tauto

/-!
# What is accepted

A decoder accepts exactly the JSON values of the form that the grammar has for
its kind.  A decoder of a record is a sequence of readers, each of which asks
for one field; the record is accepted if and only if every reader succeeds,
and each reader stands for one rule of the record's table.

For types the argument goes down along the size of the JSON value, alternating
between a type and its qualifier as the decoders do.
-/

namespace ManagedBinding.Schema

variable {α β : Type}

def Succeeds (decoded : Decoded α) : Prop :=
  ∃ value, decoded = .ok value

/-- A decoder accepts the values of one form and no others. -/
def Accepts (decode : Json → Decoded α) (form : Json → Prop) : Prop :=
  ∀ json, Succeeds (decode json) ↔ form json

theorem succeeds_ok (value : α) : Succeeds (.ok value : Decoded α) :=
  ⟨value, rfl⟩

theorem not_succeeds_error (fault : DecodeError) :
    ¬ Succeeds (.error fault : Decoded α) := by
  rintro ⟨value, equality⟩
  injection equality

theorem exists_fault_of_not_succeeds
    {decoded : Decoded α} (refused : ¬ Succeeds decoded) :
    ∃ fault, decoded = .error fault := by
  cases decoded with
  | error fault => exact ⟨fault, rfl⟩
  | ok value => exact absurd (succeeds_ok value) refused

@[simp]
theorem succeeds_map {decoded : Decoded α} {transform : α → β} :
    Succeeds (decoded.map transform) ↔ Succeeds decoded := by
  cases decoded with
  | error fault =>
      exact iff_of_false (not_succeeds_error fault)
        (not_succeeds_error fault)
  | ok value =>
      exact iff_of_true (succeeds_ok (transform value)) (succeeds_ok value)

/-- Two readers in sequence succeed if both do, provided that the success of
the second one does not depend on the value of the first. -/
theorem succeeds_bind
    {decoded : Decoded α} {next : α → Decoded β} {first second : Prop}
    (firstIff : Succeeds decoded ↔ first)
    (secondIff : ∀ value, decoded = .ok value →
      (Succeeds (next value) ↔ second)) :
    Succeeds (decoded >>= next) ↔ first ∧ second := by
  cases decoded with
  | error fault =>
      refine iff_of_false (not_succeeds_error fault) ?_
      intro both
      exact not_succeeds_error fault (firstIff.mpr both.1)
  | ok value =>
      rw [ok_bind, secondIff value rfl]
      have holds : first := firstIff.mp (succeeds_ok value)
      exact (and_iff_right holds).symm

/-- The last step of a record puts its value together and cannot fail. -/
theorem succeeds_bind_pure
    {decoded : Decoded α} {build : α → β} {first : Prop}
    (firstIff : Succeeds decoded ↔ first) :
    Succeeds (do let value ← decoded; return build value) ↔ first := by
  rw [← and_true first]
  exact succeeds_bind firstIff fun value _ =>
    iff_true_intro (succeeds_ok (build value))

theorem accepts_string : Accepts decodeString StringForm := by
  intro json
  cases json with
  | string text => exact iff_of_true (succeeds_ok text) (.string text)
  | _ =>
      refine iff_of_false (not_succeeds_error _) ?_
      intro conforms
      cases conforms

theorem accepts_boolean : Accepts decodeBoolean BooleanForm := by
  intro json
  cases json with
  | boolean value => exact iff_of_true (succeeds_ok value) (.boolean value)
  | _ =>
      refine iff_of_false (not_succeeds_error _) ?_
      intro conforms
      cases conforms

section Containers

variable {decode : Json → Decoded α} {form : Json → Prop}

theorem succeeds_mapM (accepts : Accepts decode form) (items : List Json) :
    Succeeds (items.mapM decode) ↔ ∀ item ∈ items, form item := by
  induction items with
  | nil =>
      exact iff_of_true (succeeds_ok []) (List.forall_mem_nil form)
  | cons item rest inductionHypothesis =>
      rw [List.mapM_cons, List.forall_mem_cons]
      exact succeeds_bind (accepts item) fun _ _ =>
        succeeds_bind_pure inductionHypothesis

theorem accepts_list (accepts : Accepts decode form) :
    Accepts (decodeList decode) (ListForm form) := by
  intro json
  cases json with
  | array items =>
      rw [decodeList, succeeds_mapM accepts]
      constructor
      · exact .array
      · intro conforms
        cases conforms with
        | array holds => exact holds
  | _ =>
      refine iff_of_false (not_succeeds_error _) ?_
      intro conforms
      cases conforms

theorem accepts_option (accepts : Accepts decode form) :
    Accepts (decodeOption decode) (OptionalForm form) := by
  intro json
  by_cases isNull : json = .null
  · rw [isNull]
    exact iff_of_true (succeeds_ok none) .absent
  · have present :
        decodeOption decode json = (decode json).map some := by
      cases json with
      | null => exact absurd rfl isNull
      | _ => rfl
    rw [present, succeeds_map, accepts json]
    constructor
    · exact .present
    · intro conforms
      cases conforms with
      | absent => exact absurd rfl isNull
      | present holds => exact holds

end Containers

section Enumerations

variable [Vocabulary α]

theorem succeeds_variantNamed (name : String) :
    Succeeds (variantNamed name : Decoded α) ↔
      name ∈ Vocabulary.names α := by
  have known :
      (Vocabulary.find? name : Option α).isSome ↔
        name ∈ Vocabulary.names α := by
    rw [Vocabulary.find?, List.find?_isSome, Vocabulary.names,
      List.mem_map]
    simp only [beq_iff_eq]
  rw [← known, variantNamed]
  cases (Vocabulary.find? name : Option α) with
  | none => exact iff_of_false (not_succeeds_error _) Bool.noConfusion
  | some value => exact iff_of_true (succeeds_ok value) rfl

section Payloads

variable
  {isEmptyPayload : Json → Bool} {payloadForm : Json → Prop}
  (empty : ∀ payload, isEmptyPayload payload = true ↔ payloadForm payload)

include empty

theorem succeeds_decodeVariantWith_onlyKey (name : String) (payload : Json) :
    Succeeds
        (decodeVariantWith isEmptyPayload (.object [(name, payload)]) :
          Decoded α) ↔
      name ∈ Vocabulary.names α ∧ payloadForm payload := by
  rw [decodeVariantWith]
  refine succeeds_bind (succeeds_variantNamed name) ?_
  intro value _
  rw [← empty payload]
  cases isEmptyPayload payload with
  | true => exact iff_of_true (succeeds_ok value) rfl
  | false => exact iff_of_false (not_succeeds_error _) Bool.noConfusion

theorem accepts_variantWith :
    Accepts (decodeVariantWith isEmptyPayload : Json → Decoded α)
      (VariantForm α payloadForm) := by
  intro json
  cases json with
  | string name =>
      rw [decodeVariantWith, succeeds_variantNamed]
      constructor
      · exact .name
      · intro conforms
        cases conforms with
        | name known => exact known
  | object fields =>
      rcases fields with _ | ⟨⟨name, payload⟩, _ | ⟨next, rest⟩⟩
      · refine iff_of_false (not_succeeds_error _) ?_
        intro conforms
        cases conforms
      · rw [succeeds_decodeVariantWith_onlyKey empty]
        constructor
        · intro both
          exact .onlyKey both.1 both.2
        · intro conforms
          cases conforms with
          | onlyKey known holds => exact ⟨known, holds⟩
      · refine iff_of_false (not_succeeds_error _) ?_
        intro conforms
        cases conforms
  | _ =>
      refine iff_of_false (not_succeeds_error _) ?_
      intro conforms
      cases conforms

end Payloads

theorem isNull_iff (json : Json) : isNull json = true ↔ NullForm json := by
  cases json with
  | null => exact iff_of_true rfl .null
  | _ =>
      refine iff_of_false Bool.noConfusion ?_
      intro conforms
      cases conforms

theorem isNullOrEmpty_iff (json : Json) :
    isNullOrEmpty json = true ↔ NullOrEmptyForm json := by
  cases json with
  | null => exact iff_of_true rfl .null
  | object fields =>
      cases fields with
      | nil => exact iff_of_true rfl .empty
      | cons field rest =>
          refine iff_of_false Bool.noConfusion ?_
          intro conforms
          cases conforms
  | _ =>
      refine iff_of_false Bool.noConfusion ?_
      intro conforms
      cases conforms

theorem accepts_variant :
    Accepts (decodeVariant : Json → Decoded α) (VariantForm α NullForm) :=
  accepts_variantWith isNull_iff

end Enumerations

section Fields

variable
  {fields : List (String × Json)} {key : String}
  {decode : Json → Decoded α} {form : Json → Prop}

theorem succeeds_decodeFieldD {default : α} (accepts : Accepts decode form) :
    Succeeds (decodeFieldD fields key decode default) ↔
      (FieldRule.defaulted key form).HoldsIn fields := by
  rw [decodeFieldD, FieldRule.HoldsIn]
  cases fields.lookup key with
  | none =>
      refine iff_of_true (succeeds_ok default) ?_
      intro json found
      cases found
  | some json =>
      simp only [Option.some.injEq, forall_eq']
      exact accepts json

/-- Only the value under the key has to be known to be accepted according to
its form. -/
theorem succeeds_decodeField?_of
    (accepts : ∀ json, fields.lookup key = some json →
      (Succeeds (decode json) ↔ form json)) :
    Succeeds (decodeField? fields key decode) ↔
      (FieldRule.defaulted key form).HoldsIn fields := by
  rw [decodeField?, FieldRule.HoldsIn]
  cases found : fields.lookup key with
  | none =>
      refine iff_of_true (succeeds_ok none) ?_
      intro json found
      cases found
  | some json =>
      simp only [Option.some.injEq, forall_eq']
      exact succeeds_map.trans (accepts json found)

theorem succeeds_decodeField? (accepts : Accepts decode form) :
    Succeeds (decodeField? fields key decode) ↔
      (FieldRule.defaulted key form).HoldsIn fields :=
  succeeds_decodeField?_of fun json _ => accepts json

/-- A field that has been asked for is missing exactly if its key is. -/
theorem succeeds_required {value? : Option α}
    (asked : decodeField? fields key decode = .ok value?) :
    Succeeds (required key value?) ↔ (fields.lookup key).isSome := by
  rw [decodeField?] at asked
  cases found : fields.lookup key with
  | none =>
      rw [found] at asked
      injection asked with absent
      rw [← absent]
      exact iff_of_false (not_succeeds_error _) Bool.noConfusion
  | some json =>
      rw [found] at asked
      change (decode json).map some = .ok value? at asked
      cases read : decode json with
      | error fault =>
          rw [read] at asked
          injection asked
      | ok value =>
          rw [read] at asked
          injection asked with present
          rw [← present]
          exact iff_of_true (succeeds_ok value) rfl

theorem holdsIn_required_iff :
    (FieldRule.required key form).HoldsIn fields ↔
      (FieldRule.defaulted key form).HoldsIn fields ∧
        (fields.lookup key).isSome := by
  rw [FieldRule.HoldsIn, FieldRule.HoldsIn]
  cases fields.lookup key with
  | none => simp
  | some json => simp

end Fields

section Items

variable
  {key : String} {form : Json → Prop} {rules : List FieldRule}
  {item : Json} {items : List Json}

theorem itemsConform_nil : ItemsConform [] items ↔ items = [] := by
  constructor
  · intro conform
    cases conform with
    | done => rfl
  · intro empty
    rw [empty]
    exact .done

theorem not_itemsConform_required_nil :
    ¬ ItemsConform (.required key form :: rules) [] := by
  intro conform
  cases conform

theorem itemsConform_required_cons :
    ItemsConform (.required key form :: rules) (item :: items) ↔
      form item ∧ ItemsConform rules items := by
  constructor
  · intro conform
    cases conform with
    | required holds later => exact ⟨holds, later⟩
  · intro both
    exact .required both.1 both.2

/-- The item at a position may be missing.  Then so are all later ones. -/
theorem itemsConform_defaulted_drop (index : Nat) :
    ItemsConform (.defaulted key form :: rules) (items.drop index) ↔
      (∀ item, items[index]? = some item → form item) ∧
        ItemsConform rules (items.drop (index + 1)) := by
  rw [← List.head?_drop, ← List.tail_drop]
  cases items.drop index with
  | nil =>
      constructor
      · intro conform
        cases conform with
        | missing later =>
            refine ⟨?_, later⟩
            intro item found
            cases found
      · intro both
        exact .missing both.2
  | cons item rest =>
      constructor
      · intro conform
        cases conform with
        | defaulted holds later =>
            refine ⟨?_, later⟩
            intro present found
            cases found
            exact holds
      · intro both
        exact .defaulted (both.1 item rfl) both.2

theorem succeeds_decodeItemD
    {decode : Json → Decoded α} (accepts : Accepts decode form)
    (index : Nat) (default : α) :
    Succeeds (decodeItemD items index decode default) ↔
      ∀ item, items[index]? = some item → form item := by
  rw [decodeItemD]
  cases items[index]? with
  | none =>
      refine iff_of_true (succeeds_ok default) ?_
      intro json found
      cases found
  | some item =>
      simp only [Option.some.injEq, forall_eq']
      exact accepts item

theorem succeeds_atMost (size length : Nat) :
    Succeeds (atMost size length) ↔ length ≤ size := by
  rw [atMost]
  by_cases fits : length ≤ size
  · rw [if_pos fits]
    exact iff_of_true (succeeds_ok ()) fits
  · rw [if_neg fits]
    exact iff_of_false (not_succeeds_error _) fits

end Items

/-! ## Types and parameters -/

theorem name_of_find?_indirection
    {name : String} {via : Indirection}
    (found : Vocabulary.find? name = some via) :
    Vocabulary.name via = name := by
  rw [Vocabulary.find?] at found
  have sameName := List.find?_some found
  exact beq_iff_eq.mp sameName

/-- The keys of the shapes of a type differ. -/
theorem name_indirection_ne (via : Indirection) :
    Vocabulary.name via ≠ "builtin" ∧ Vocabulary.name via ≠ "tag" := by
  cases via <;> decide

/-- An object with one key is a type according to that key. -/
theorem succeeds_decodeType_onlyKey
    {name : String} {payload : Json}
    (inside : Succeeds (decodeQualifiedType payload) ↔
      QualifiedTypeForm payload) :
    Succeeds (decodeType (.object [(name, payload)])) ↔
      TypeForm (.object [(name, payload)]) := by
  rw [decodeType, typeForm_onlyKey_iff]
  by_cases isBuiltin : name = "builtin"
  · rw [if_pos isBuiltin, succeeds_map, accepts_variant payload]
    constructor
    · intro holds
      exact .inl ⟨isBuiltin, holds⟩
    · intro conforms
      rcases conforms with
        ⟨_, holds⟩ | ⟨isTag, _⟩ | ⟨⟨via, named⟩, _⟩
      · exact holds
      · rw [isBuiltin] at isTag
        exact absurd isTag (by decide)
      · exact absurd (named.trans isBuiltin) (name_indirection_ne via).1
  · rw [if_neg isBuiltin]
    by_cases isTag : name = "tag"
    · rw [if_pos isTag, succeeds_map, accepts_string payload]
      constructor
      · intro holds
        exact .inr (.inl ⟨isTag, holds⟩)
      · intro conforms
        rcases conforms with
          ⟨builtin, _⟩ | ⟨_, holds⟩ | ⟨⟨via, named⟩, _⟩
        · exact absurd builtin isBuiltin
        · exact holds
        · exact absurd (named.trans isTag) (name_indirection_ne via).2
    · rw [if_neg isTag]
      cases found : (Vocabulary.find? name : Option Indirection) with
      | some via =>
          refine (succeeds_bind_pure inside).trans ?_
          constructor
          · intro holds
            have named : Vocabulary.name via = name :=
              name_of_find?_indirection found
            exact .inr (.inr ⟨⟨via, named⟩, holds⟩)
          · intro conforms
            rcases conforms with
              ⟨builtin, _⟩ | ⟨tag, _⟩ | ⟨_, holds⟩
            · exact absurd builtin isBuiltin
            · exact absurd tag isTag
            · exact holds
      | none =>
          refine iff_of_false (not_succeeds_error _) ?_
          intro conforms
          rcases conforms with
            ⟨builtin, _⟩ | ⟨tag, _⟩ | ⟨⟨via, rfl⟩, _⟩
          · exact isBuiltin builtin
          · exact isTag tag
          · rw [LawfulVocabulary.find?_name] at found
            exact absurd found (Option.some_ne_none via)

/-- A type is accepted according to its form if all smaller values are. -/
theorem succeeds_decodeType_of
    {json : Json}
    (inside : ∀ payload, sizeOf payload < sizeOf json →
      (Succeeds (decodeQualifiedType payload) ↔
        QualifiedTypeForm payload)) :
    Succeeds (decodeType json) ↔ TypeForm json := by
  cases json with
  | string name =>
      rw [decodeType]
      by_cases known : typeVariants.contains name = true
      · rw [if_pos known]
        refine iff_of_false (not_succeeds_error _) ?_
        intro conforms
        cases conforms
      · rw [if_neg known]
        refine iff_of_false (not_succeeds_error _) ?_
        intro conforms
        cases conforms
  | object fields =>
      rcases fields with _ | ⟨⟨name, payload⟩, _ | ⟨next, rest⟩⟩
      · unfold decodeType
        refine iff_of_false (not_succeeds_error _) ?_
        intro conforms
        cases conforms
      · apply succeeds_decodeType_onlyKey
        apply inside
        simp only [Json.object.sizeOf_spec, List.cons.sizeOf_spec,
          Prod.mk.sizeOf_spec]
        omega
      · unfold decodeType
        refine iff_of_false (not_succeeds_error _) ?_
        intro conforms
        cases conforms
  | _ =>
      unfold decodeType
      refine iff_of_false (not_succeeds_error _) ?_
      intro conforms
      cases conforms

theorem succeeds_decodeQualifiedType_of
    {json : Json}
    (inside : ∀ type, sizeOf type < sizeOf json →
      (Succeeds (decodeType type) ↔ TypeForm type)) :
    Succeeds (decodeQualifiedType json) ↔ QualifiedTypeForm json := by
  rw [qualifiedTypeForm_iff]
  cases json with
  | object fields =>
      have insideFields (type : Json)
          (found : fields.lookup "type" = some type) :
          Succeeds (decodeType type) ↔ TypeForm type := by
        apply inside
        have smaller := Json.sizeOf_lt_of_lookup found
        rw [Json.object.sizeOf_spec]
        omega
      -- The rules, in the order in which the decoder asks for the fields.
      have table :
          (∀ rule ∈ qualifiedTypeRules, rule.HoldsIn fields) ↔
            (FieldRule.defaulted "is_const" BooleanForm).HoldsIn fields ∧
              (FieldRule.defaulted "type" TypeForm).HoldsIn fields ∧
              (fields.lookup "type").isSome := by
        rw [qualifiedTypeRules, List.forall_mem_cons,
          List.forall_mem_singleton, holdsIn_required_iff]
        tauto
      rw [decodeQualifiedType_object, recordForm_object_iff, table]
      exact
        succeeds_bind (succeeds_decodeFieldD accepts_boolean) fun _ _ =>
        succeeds_bind (succeeds_decodeField?_of insideFields)
          fun _ typeAsked =>
        succeeds_bind_pure (succeeds_required typeAsked)
  | array items =>
      rw [recordForm_array_iff, qualifiedTypeRules]
      cases items with
      | nil =>
          unfold decodeQualifiedType
          exact iff_of_false (not_succeeds_error _)
            not_itemsConform_required_nil
      | cons type rest =>
          have smaller : sizeOf type < sizeOf (Json.array (type :: rest)) := by
            simp only [Json.array.sizeOf_spec, List.cons.sizeOf_spec]
            omega
          rw [decodeQualifiedType, itemsConform_required_cons]
          refine succeeds_bind (inside type smaller) fun _ _ => ?_
          -- The items behind the first one are asked for by position.
          change _ ↔ ItemsConform _ (rest.drop 0)
          rw [itemsConform_defaulted_drop]
          refine
            succeeds_bind (succeeds_decodeItemD accepts_boolean 0 false)
              fun _ _ => ?_
          rw [itemsConform_nil, List.drop_eq_nil_iff,
            ← Nat.add_le_add_iff_right (n := 1)]
          exact succeeds_bind_pure (succeeds_atMost 2 (rest.length + 1))
  | _ =>
      unfold decodeQualifiedType
      refine iff_of_false (not_succeeds_error _) ?_
      intro conforms
      cases conforms

mutual

theorem accepts_type : Accepts decodeType TypeForm := fun json =>
  succeeds_decodeType_of fun payload _ => accepts_qualifiedType payload
termination_by json => sizeOf json

theorem accepts_qualifiedType :
    Accepts decodeQualifiedType QualifiedTypeForm := fun json =>
  succeeds_decodeQualifiedType_of fun type _ => accepts_type type
termination_by json => sizeOf json

end

theorem accepts_parameter :
    Accepts decodeParameter (RecordForm parameterRules) := by
  intro json
  cases json with
  | object fields =>
      have table :
          (∀ rule ∈ parameterRules, rule.HoldsIn fields) ↔
            (FieldRule.defaulted "name" StringForm).HoldsIn fields ∧
              (FieldRule.defaulted "qualified_type"
                QualifiedTypeForm).HoldsIn fields ∧
              (fields.lookup "name").isSome ∧
              (fields.lookup "qualified_type").isSome := by
        rw [parameterRules, List.forall_mem_cons,
          List.forall_mem_singleton, holdsIn_required_iff,
          holdsIn_required_iff]
        tauto
      rw [decodeParameter, recordForm_object_iff, table]
      exact
        succeeds_bind (succeeds_decodeField? accepts_string)
          fun _ nameAsked =>
        succeeds_bind (succeeds_decodeField? accepts_qualifiedType)
          fun _ typeAsked =>
        succeeds_bind (succeeds_required nameAsked) fun _ _ =>
        succeeds_bind_pure (succeeds_required typeAsked)
  | array items =>
      rw [recordForm_array_iff, parameterRules]
      rcases items with _ | ⟨name, _ | ⟨type, rest⟩⟩
      · exact iff_of_false (not_succeeds_error _)
          not_itemsConform_required_nil
      · rw [decodeParameter, itemsConform_required_cons]
        exact succeeds_bind (accepts_string name) fun _ _ =>
          iff_of_false (not_succeeds_error _) not_itemsConform_required_nil
      · have ended : rest.length = 0 ↔ rest.length + 2 ≤ 2 := by
          omega
        rw [decodeParameter, itemsConform_required_cons,
          itemsConform_required_cons, itemsConform_nil,
          ← List.length_eq_zero_iff, ended]
        exact
          succeeds_bind (accepts_string name) fun _ _ =>
          succeeds_bind (accepts_qualifiedType type) fun _ _ =>
          succeeds_bind_pure (succeeds_atMost 2 (rest.length + 2))
  | _ =>
      refine iff_of_false (not_succeeds_error _) ?_
      intro conforms
      cases conforms

/-! ## Declarations, members and units -/

section Declarations

variable {fields : List (String × Json)}

theorem succeeds_decodeDeclarationFields
    {decodeAccess : Json → Decoded Access} {accessPayload : Json → Prop}
    (accepts : Accepts decodeAccess (VariantForm Access accessPayload)) :
    Succeeds (decodeDeclarationFields decodeAccess fields) ↔
      ∀ rule ∈ declarationRules accessPayload, rule.HoldsIn fields := by
  have table :
      (∀ rule ∈ declarationRules accessPayload, rule.HoldsIn fields) ↔
        (FieldRule.defaulted "access"
            (VariantForm Access accessPayload)).HoldsIn fields ∧
          (FieldRule.defaulted "comment"
            (OptionalForm StringForm)).HoldsIn fields ∧
          (FieldRule.defaulted "ignore" BooleanForm).HoldsIn fields ∧
          (FieldRule.defaulted "name" StringForm).HoldsIn fields ∧
          (FieldRule.defaulted "namespace"
            (ListForm StringForm)).HoldsIn fields ∧
          (fields.lookup "name").isSome := by
    simp only [declarationRules, List.forall_mem_cons,
      holdsIn_required_iff]
    tauto
  rw [decodeDeclarationFields, table]
  exact
    succeeds_bind (succeeds_decodeFieldD accepts) fun _ _ =>
    succeeds_bind (succeeds_decodeFieldD (accepts_option accepts_string))
      fun _ _ =>
    succeeds_bind (succeeds_decodeFieldD accepts_boolean) fun _ _ =>
    succeeds_bind (succeeds_decodeField? accepts_string)
      fun _ nameAsked =>
    succeeds_bind (succeeds_decodeFieldD (accepts_list accepts_string))
      fun _ _ =>
    succeeds_bind_pure (succeeds_required nameAsked)

theorem succeeds_decodeSharedDeclaration :
    Succeeds (decodeSharedDeclaration fields) ↔
      ∀ rule ∈ declarationRules NullOrEmptyForm, rule.HoldsIn fields :=
  succeeds_decodeDeclarationFields (accepts_variantWith isNullOrEmpty_iff)

theorem accepts_declaration :
    Accepts decodeDeclaration (RecordForm (declarationRules NullForm)) := by
  intro json
  cases json with
  | object fields =>
      rw [recordForm_object_iff]
      exact succeeds_decodeDeclarationFields accepts_variant
  | array items =>
      rw [recordForm_array_iff, declarationRules]
      cases items with
      | nil =>
          exact iff_of_false (not_succeeds_error _)
            not_itemsConform_required_nil
      | cons name rest =>
          rw [decodeDeclaration, itemsConform_required_cons]
          refine succeeds_bind (accepts_string name) fun _ _ => ?_
          change _ ↔ ItemsConform _ (rest.drop 0)
          rw [itemsConform_defaulted_drop, itemsConform_defaulted_drop,
            itemsConform_defaulted_drop, itemsConform_defaulted_drop,
            itemsConform_nil, List.drop_eq_nil_iff,
            ← Nat.add_le_add_iff_right (n := 1)]
          exact
            succeeds_bind
              (succeeds_decodeItemD (accepts_list accepts_string) 0 [])
              fun _ _ =>
            succeeds_bind
              (succeeds_decodeItemD accepts_variant 1 Access.publicAccess)
              fun _ _ =>
            succeeds_bind (succeeds_decodeItemD accepts_boolean 2 false)
              fun _ _ =>
            succeeds_bind
              (succeeds_decodeItemD (accepts_option accepts_string) 3 none)
              fun _ _ =>
            succeeds_bind_pure (succeeds_atMost 5 (rest.length + 1))
  | _ =>
      refine iff_of_false (not_succeeds_error _) ?_
      intro conforms
      cases conforms

end Declarations

theorem accepts_method :
    Accepts decodeMethod (ObjectForm (methodRules NullOrEmptyForm)) := by
  intro json
  cases json with
  | object fields =>
      have table :
          (∀ rule ∈ methodRules NullOrEmptyForm, rule.HoldsIn fields) ↔
            (FieldRule.defaulted "conversion"
                (VariantForm FunctionConversion NullForm)).HoldsIn fields ∧
              (FieldRule.defaulted "is_static" BooleanForm).HoldsIn fields ∧
              (FieldRule.defaulted "kind"
                (VariantForm MethodKind NullForm)).HoldsIn fields ∧
              (FieldRule.defaulted "operator_kind"
                (OptionalForm
                  (VariantForm Operator NullForm))).HoldsIn fields ∧
              (FieldRule.defaulted "parameters"
                (ListForm (RecordForm parameterRules))).HoldsIn fields ∧
              (FieldRule.defaulted "return_type"
                QualifiedTypeForm).HoldsIn fields ∧
              (fields.lookup "return_type").isSome ∧
              ∀ rule ∈ declarationRules NullOrEmptyForm,
                rule.HoldsIn fields := by
        rw [methodRules, List.forall_mem_append]
        simp only [List.forall_mem_cons, holdsIn_required_iff]
        tauto
      rw [decodeMethod, objectForm_iff, table]
      exact
        succeeds_bind (succeeds_decodeFieldD accepts_variant) fun _ _ =>
        succeeds_bind (succeeds_decodeFieldD accepts_boolean) fun _ _ =>
        succeeds_bind (succeeds_decodeFieldD accepts_variant) fun _ _ =>
        succeeds_bind
          (succeeds_decodeFieldD (accepts_option accepts_variant))
          fun _ _ =>
        succeeds_bind
          (succeeds_decodeFieldD (accepts_list accepts_parameter))
          fun _ _ =>
        succeeds_bind (succeeds_decodeField? accepts_qualifiedType)
          fun _ returnTypeAsked =>
        succeeds_bind (succeeds_required returnTypeAsked) fun _ _ =>
        succeeds_bind_pure succeeds_decodeSharedDeclaration
  | _ =>
      refine iff_of_false (not_succeeds_error _) ?_
      intro conforms
      cases conforms

theorem accepts_field :
    Accepts decodeField (ObjectForm (fieldRules NullOrEmptyForm)) := by
  intro json
  cases json with
  | object fields =>
      rw [decodeField, objectForm_iff, fieldRules, List.forall_mem_cons,
        holdsIn_required_iff, and_assoc]
      exact
        succeeds_bind (succeeds_decodeField? accepts_qualifiedType)
          fun _ typeAsked =>
        succeeds_bind (succeeds_required typeAsked) fun _ _ =>
        succeeds_bind_pure succeeds_decodeSharedDeclaration
  | _ =>
      refine iff_of_false (not_succeeds_error _) ?_
      intro conforms
      cases conforms

theorem accepts_event :
    Accepts decodeEvent (ObjectForm (eventRules NullOrEmptyForm)) := by
  intro json
  cases json with
  | object fields =>
      rw [decodeEvent, objectForm_iff, eventRules, List.forall_mem_cons]
      exact
        succeeds_bind
          (succeeds_decodeFieldD (accepts_list accepts_qualifiedType))
          fun _ _ =>
        succeeds_bind_pure succeeds_decodeSharedDeclaration
  | _ =>
      refine iff_of_false (not_succeeds_error _) ?_
      intro conforms
      cases conforms

theorem accepts_class :
    Accepts decodeClass (ObjectForm (classRules NullOrEmptyForm)) := by
  intro json
  cases json with
  | object fields =>
      have table :
          (∀ rule ∈ classRules NullOrEmptyForm, rule.HoldsIn fields) ↔
            (FieldRule.defaulted "events"
                (ListForm
                  (ObjectForm (eventRules NullOrEmptyForm)))).HoldsIn
                fields ∧
              (FieldRule.defaulted "fields"
                (ListForm
                  (ObjectForm (fieldRules NullOrEmptyForm)))).HoldsIn
                fields ∧
              (FieldRule.defaulted "is_value_type"
                BooleanForm).HoldsIn fields ∧
              (FieldRule.defaulted "methods"
                (ListForm
                  (ObjectForm (methodRules NullOrEmptyForm)))).HoldsIn
                fields ∧
              ∀ rule ∈ declarationRules NullOrEmptyForm,
                rule.HoldsIn fields := by
        rw [classRules, List.forall_mem_append]
        simp only [List.forall_mem_cons]
        tauto
      rw [decodeClass, objectForm_iff, table]
      exact
        succeeds_bind (succeeds_decodeFieldD (accepts_list accepts_event))
          fun _ _ =>
        succeeds_bind (succeeds_decodeFieldD (accepts_list accepts_field))
          fun _ _ =>
        succeeds_bind (succeeds_decodeFieldD accepts_boolean) fun _ _ =>
        succeeds_bind (succeeds_decodeFieldD (accepts_list accepts_method))
          fun _ _ =>
        succeeds_bind_pure succeeds_decodeSharedDeclaration
  | _ =>
      refine iff_of_false (not_succeeds_error _) ?_
      intro conforms
      cases conforms

theorem accepts_unit :
    Accepts decodeUnit (RecordForm (unitRules NullOrEmptyForm)) := by
  intro json
  cases json with
  | object fields =>
      have table :
          (∀ rule ∈ unitRules NullOrEmptyForm, rule.HoldsIn fields) ↔
            (FieldRule.defaulted "classes"
                (ListForm
                  (ObjectForm (classRules NullOrEmptyForm)))).HoldsIn
                fields ∧
              (FieldRule.defaulted "file_name"
                StringForm).HoldsIn fields ∧
              (fields.lookup "file_name").isSome := by
        rw [unitRules, List.forall_mem_cons,
          List.forall_mem_singleton, holdsIn_required_iff]
        tauto
      rw [decodeUnit, recordForm_object_iff, table]
      exact
        succeeds_bind (succeeds_decodeFieldD (accepts_list accepts_class))
          fun _ _ =>
        succeeds_bind (succeeds_decodeField? accepts_string)
          fun _ nameAsked =>
        succeeds_bind_pure (succeeds_required nameAsked)
  | array items =>
      rw [recordForm_array_iff, unitRules]
      cases items with
      | nil =>
          exact iff_of_false (not_succeeds_error _)
            not_itemsConform_required_nil
      | cons name rest =>
          rw [decodeUnit, itemsConform_required_cons]
          refine succeeds_bind (accepts_string name) fun _ _ => ?_
          change _ ↔ ItemsConform _ (rest.drop 0)
          rw [itemsConform_defaulted_drop, itemsConform_nil,
            List.drop_eq_nil_iff, ← Nat.add_le_add_iff_right (n := 1)]
          exact
            succeeds_bind
              (succeeds_decodeItemD (accepts_list accepts_class) 0 [])
              fun _ _ =>
            succeeds_bind_pure (succeeds_atMost 2 (rest.length + 1))
  | _ =>
      refine iff_of_false (not_succeeds_error _) ?_
      intro conforms
      cases conforms

theorem accepts_decode (kind : Kind) :
    Accepts (decode kind) (Conforms NullOrEmptyForm kind) := by
  cases kind with
  | unit => exact accepts_unit
  | nativeClass => exact accepts_class
  | method => exact accepts_method
  | field => exact accepts_field
  | event => exact accepts_event
  | parameter => exact accepts_parameter
  | declaration => exact accepts_declaration
  | qualifiedType =>
      intro json
      exact (accepts_qualifiedType json).trans (qualifiedTypeForm_iff json)
  | type => exact accepts_type
  | primitive => exact accepts_variant (α := Primitive)
  | operator => exact accepts_variant (α := Operator)
  | methodKind => exact accepts_variant (α := MethodKind)
  | conversion => exact accepts_variant (α := FunctionConversion)
  | access => exact accepts_variant (α := Access)

/-- A JSON value is read as a value of a kind exactly if it has the form of the
kind, and every other value is refused with a fault.  The payload of an access
level is `null`; among the fields that a class or member shares with its
declaration it may also be an empty object. -/
theorem decode_accepts_grammar (kind : Kind) (json : Json) :
    ((∃ value, decode kind json = .ok value) ↔
        Conforms NullOrEmptyForm kind json) ∧
      (¬ Conforms NullOrEmptyForm kind json →
        ∃ fault, decode kind json = .error fault) := by
  have accepts := accepts_decode kind json
  refine ⟨accepts, ?_⟩
  intro foreign
  apply exists_fault_of_not_succeeds
  intro accepted
  exact foreign (accepts.mp accepted)

/-- The empty object as the payload of a class's access level is accepted,
though it is not `null`. -/
theorem empty_access_payload_is_accepted :
    let json : Json :=
      .object
        [("name", .string "X"),
          ("access", .object [("public", .object [])])]
    (∃ value, decode .nativeClass json = .ok value) ∧
      ¬ Conforms NullForm .nativeClass json := by
  intro json
  refine ⟨⟨_, rfl⟩, ?_⟩
  intro conforms
  have rules := objectForm_iff.mp conforms
  have accessRule :
      FieldRule.defaulted "access" (VariantForm Access NullForm) ∈
        classRules NullForm := by
    simp [classRules, declarationRules]
  have accessForm := rules _ accessRule _ rfl
  rcases accessForm with _ | ⟨_, ⟨⟩⟩

end ManagedBinding.Schema
