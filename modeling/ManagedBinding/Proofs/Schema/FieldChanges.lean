import ManagedBinding.Proofs.Schema.Inside

/-!
# Defaults and unknown keys

A record says the same with and without a field that has its default value,
and its unknown keys say nothing.  So a document may be changed in these ways
at any number of its records, at any depth, and is still read as the same
value.

For the classes and members the known keys are their own together with those
of their declaration, since both are looked up in one object.
-/

namespace ManagedBinding.Schema

/-- One change of the fields of a record that does not change what they
say. -/
inductive FieldChange (record : Record) : Json → Json → Prop
  | unknownAdded {before after : List (String × Json)}
      {key : String} {json : Json} :
      key ∉ record.keys →
      FieldChange record (.object (before ++ after))
        (.object (before ++ (key, json) :: after))
  | defaultAdded {before after : List (String × Json)}
      {key : String} {json : Json} :
      record.HasDefault key json →
      key ∉ (before ++ after).map Prod.fst →
      FieldChange record (.object (before ++ after))
        (.object (before ++ (key, json) :: after))
  | defaultRemoved {before after : List (String × Json)}
      {key : String} {json : Json} :
      record.HasDefault key json →
      key ∉ (before ++ after).map Prod.fst →
      FieldChange record (.object (before ++ (key, json) :: after))
        (.object (before ++ after))

section Fields

variable
  {record : Record} {before after : List (String × Json)}
  {key : String} {json : Json}

theorem readAlike_unknown (unknown : key ∉ record.keys) :
    ReadAlike (decode record.kind)
      (.object (before ++ (key, json) :: after))
      (.object (before ++ after)) := by
  apply readAlike_objects
  intro slot member value
  have different : slot.key ≠ key := by
    intro equality
    apply unknown
    rw [← equality]
    exact List.mem_map_of_mem member
  rw [lookup_around different]

theorem readAlike_default
    (hasDefault : record.HasDefault key json)
    (absent : key ∉ (before ++ after).map Prod.fst) :
    ReadAlike (decode record.kind)
      (.object (before ++ (key, json) :: after))
      (.object (before ++ after)) := by
  obtain ⟨slot, slotMember, rfl, isDefault⟩ := hasDefault
  have absentBefore : slot.key ∉ before.map Prod.fst := by
    intro early
    apply absent
    rw [List.map_append]
    exact List.mem_append_left _ early
  have unfound : (before ++ after).lookup slot.key = none := by
    have found :
        (before ++ after ++ []).lookup slot.key =
          ([] : List (String × Json)).lookup slot.key :=
      lookup_append_of_not_mem absent
    rw [List.append_nil] at found
    exact found
  apply readAlike_objects
  intro other otherMember value
  by_cases sameKey : other.key = slot.key
  · have sameSlot : other = slot :=
      Record.slot_eq_of_key_eq otherMember slotMember sameKey
    subst sameSlot
    rw [lookup_middle absentBefore, unfound]
    exact Slot.fits_default_iff isDefault value
  · rw [lookup_around sameKey]

theorem FieldChange.readAlike
    {json changed : Json} (change : FieldChange record json changed) :
    ReadAlike (decode record.kind) json changed := by
  intro value
  cases change with
  | unknownAdded unknown => exact (readAlike_unknown unknown value).symm
  | defaultAdded hasDefault absent =>
      exact (readAlike_default hasDefault absent value).symm
  | defaultRemoved hasDefault absent =>
      exact readAlike_default hasDefault absent value

end Fields

/-- A document that is changed at any number of records, by leaving out fields
that have their default value, by writing such fields, or by adding keys that
the record does not know, is read as the same value. -/
theorem decode_iff_of_field_changes
    {kind : Kind} {json changed : Json}
    (changes :
      Relation.ReflTransGen (Inside FieldChange (.value kind))
        json changed)
    (value : kind.Value) :
    decode kind changed = .ok value ↔ decode kind json = .ok value :=
  (Inside.readAlike_closure (fun _ _ _ => FieldChange.readAlike) changes
    value).symm

/-- A method with further fields behind its own and its return type's. -/
def countMethod (methodFields typeFields : List (String × Json)) : Json :=
  let returnType : Json :=
    .object (("type", encodeType (.builtin .int)) :: typeFields)
  .object
    (("name", .string "Count") :: ("return_type", returnType) ::
      methodFields)

/-- A class with one method and further fields behind it. -/
def counterClass (method : Json) (classFields : List (String × Json)) :
    Json :=
  .object
    (("name", .string "Counter") :: ("methods", .array [method]) ::
      classFields)

/-- A default is left out of the return type, another one is written into the
method, and the class gets a key that it does not know. -/
theorem decode_of_changed_counter :
    let json := counterClass (countMethod [] [("is_const", .boolean false)]) []
    let changed :=
      counterClass (countMethod [("ignore", .boolean false)] [])
        [("color", .null)]
    let counter :=
      (Class.named "Counter").withMethod (.named "Count" (.builtin .int))
    Relation.ReflTransGen (Inside FieldChange (.value .nativeClass))
        json changed ∧
      decode .nativeClass json = .ok counter ∧
      decode .nativeClass changed = .ok counter := by
  intro json changed counter
  have inMethod {before after : Json}
      (step : Inside FieldChange (.value .method) before after) :
      Inside FieldChange (.value .nativeClass)
        (counterClass before []) (counterClass after []) :=
    @Inside.field FieldChange .nativeClass
      ⟨"methods", .list .method, some [], Class.methods⟩
      [("name", .string "Counter")] [] _ _
      (List.mem_of_getElem? (i := 1) rfl) (by decide)
      (@Inside.member FieldChange .method [] [] _ _ step)
  have typeChanged :
      Inside FieldChange (.value .method)
        (countMethod [] [("is_const", .boolean false)])
        (countMethod [] []) :=
    @Inside.field FieldChange .method
      ⟨"return_type", .value .qualifiedType, none, Method.returnType⟩
      [("name", .string "Count")] [] _ _
      (List.mem_of_getElem? (i := 4) rfl) (by decide)
      (@Inside.here FieldChange .qualifiedType _ _
        (@FieldChange.defaultRemoved .qualifiedType
          [("type", encodeType (.builtin .int))] [] _ _
          ⟨_, List.mem_of_getElem? (i := 1) rfl, rfl, false, rfl, rfl⟩
          (by decide)))
  have methodChanged :
      Inside FieldChange (.value .method)
        (countMethod [] []) (countMethod [("ignore", .boolean false)] []) :=
    @Inside.here FieldChange .method _ _
      (@FieldChange.defaultAdded .method
        [("name", .string "Count"), ("return_type", _)] [] _ _
        ⟨_, List.mem_of_getElem? (i := 9) rfl, rfl, false, rfl, rfl⟩
        (by decide))
  have classChanged :
      Inside FieldChange (.value .nativeClass)
        (counterClass (countMethod [("ignore", .boolean false)] []) [])
        changed :=
    @Inside.here FieldChange .nativeClass _ _
      (@FieldChange.unknownAdded .nativeClass
        [("name", .string "Counter"), ("methods", _)] [] _ _ (by decide))
  have changes :
      Relation.ReflTransGen (Inside FieldChange (.value .nativeClass))
        json changed :=
    ((Relation.ReflTransGen.single (inMethod typeChanged)).tail
      (inMethod methodChanged)).tail classChanged
  have typeRead :
      decodeQualifiedType
          (.object
            [("type", encodeType (.builtin .int)),
              ("is_const", .boolean false)]) =
        .ok (.builtin .int) :=
    decodeQualifiedType_encodeQualifiedType (.builtin .int)
  have methodRead :
      decodeMethod (countMethod [] [("is_const", .boolean false)]) =
        .ok (.named "Count" (.builtin .int)) := by
    rw [countMethod, decodeMethod]
    simp (disch := decide) only [decodeField?_cons_of_ne,
      decodeField?_cons_self, typeRead, map_ok, ok_bind]
    rfl
  have accepted : decode .nativeClass json = .ok counter := by
    change decodeClass (counterClass _ []) = .ok counter
    rw [counterClass, decodeClass]
    simp (disch := decide) only [decodeFieldD_cons_of_ne,
      decodeFieldD_cons_self, decodeList, List.mapM_cons, methodRead]
    rfl
  exact ⟨changes, accepted,
    (decode_iff_of_field_changes changes counter).mpr accepted⟩

end ManagedBinding.Schema
