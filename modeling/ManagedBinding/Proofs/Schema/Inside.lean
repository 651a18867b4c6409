import ManagedBinding.Proofs.Schema.Acceptance
import ManagedBinding.Proofs.Schema.Slots
import Mathlib.Logic.Relation

/-!
# Changes inside a document

The records of a document contain each other: a unit has classes, a class has
members, and their types contain types.  `Inside change` is a relation on
records carried into documents.  It changes one record and leaves everything
around it as it is, whether the records on the way are objects or arrays.

Two facts lift from the changed record to the whole document.  If the change
keeps what the record says, then it keeps what the document says; and if the
changed record cannot be read, then neither can the document.
-/

namespace ManagedBinding.Schema

variable {α : Type}

/-- One record in a document is changed.  In an object the changed field is
the one that is read, and the items of an array stand in the order of the
record's fields. -/
inductive Inside (change : Record → Json → Json → Prop) :
    Place → Json → Json → Prop
  | here {record : Record} {json changed : Json} :
      change record json changed →
      Inside change (.value record.kind) json changed
  | field {record : Record} {slot : Slot record.kind.Value}
      {before after : List (String × Json)} {json changed : Json} :
      slot ∈ record.slots → slot.key ∉ before.map Prod.fst →
      Inside change slot.place json changed →
      Inside change (.value record.kind)
        (.object (before ++ (slot.key, json) :: after))
        (.object (before ++ (slot.key, changed) :: after))
  | item {record : Record} {slot : Slot record.kind.Value}
      {before after : List Json} {json changed : Json} :
      record.slots[before.length]? = some slot →
      Inside change slot.place json changed →
      Inside change (.value record.kind)
        (.array (before ++ json :: after))
        (.array (before ++ changed :: after))
  | member {kind : Kind} {before after : List Json} {json changed : Json} :
      Inside change (.value kind) json changed →
      Inside change (.list kind)
        (.array (before ++ json :: after))
        (.array (before ++ changed :: after))
  | target (via : Indirection) {json changed : Json} :
      Inside change (.value .qualifiedType) json changed →
      Inside change (.value .type)
        (.object [(Vocabulary.name via, json)])
        (.object [(Vocabulary.name via, changed)])

/-- Both values are read with the same results, if they are read at all. -/
def ReadAlike (decode : Json → Decoded α) (left right : Json) : Prop :=
  ∀ value, decode left = .ok value ↔ decode right = .ok value

section Around

variable
  {record : Record} {slot : Slot record.kind.Value}
  {before after : List (String × Json)} {json changed : Json}

/-- Objects say the same record if every slot fits them alike. -/
theorem readAlike_objects
    {fields others : List (String × Json)}
    (alike : ∀ slot ∈ record.slots, ∀ value,
      slot.Fits value (fields.lookup slot.key) ↔
        slot.Fits value (others.lookup slot.key)) :
    ReadAlike (decode record.kind) (.object fields) (.object others) := by
  intro value
  rw [decode_object_iff, decode_object_iff]
  constructor
  · intro fits slot member
    exact (alike slot member value).mp (fits slot member)
  · intro fits slot member
    exact (alike slot member value).mpr (fits slot member)

theorem lookup_middle
    {key : String} (absent : key ∉ before.map Prod.fst) :
    (before ++ (key, json) :: after).lookup key = some json := by
  rw [lookup_append_of_not_mem absent, List.lookup_cons_self]

theorem lookup_around
    {key other : String} (different : other ≠ key) :
    (before ++ (key, json) :: after).lookup other =
      (before ++ after).lookup other := by
  rw [List.lookup_append, List.lookup_append, List.lookup_cons,
    beq_false_of_ne different]

theorem readAlike_field
    (slotMember : slot ∈ record.slots)
    (absent : slot.key ∉ before.map Prod.fst)
    (inner : ReadAlike slot.place.decode json changed) :
    ReadAlike (decode record.kind)
      (.object (before ++ (slot.key, json) :: after))
      (.object (before ++ (slot.key, changed) :: after)) := by
  apply readAlike_objects
  intro other otherMember value
  by_cases sameKey : other.key = slot.key
  · have sameSlot : other = slot :=
      Record.slot_eq_of_key_eq otherMember slotMember sameKey
    subst sameSlot
    rw [lookup_middle absent, lookup_middle absent]
    exact inner (other.part value)
  · rw [lookup_around sameKey, lookup_around sameKey]

theorem not_succeeds_field
    (slotMember : slot ∈ record.slots)
    (absent : slot.key ∉ before.map Prod.fst)
    (refused : ¬ Succeeds (slot.place.decode changed)) :
    ¬ Succeeds
      (decode record.kind
        (.object (before ++ (slot.key, changed) :: after))) := by
  rintro ⟨value, accepted⟩
  have fits := decode_object_iff record |>.mp accepted slot slotMember
  rw [lookup_middle absent] at fits
  exact refused ⟨slot.part value, fits⟩

end Around

section AroundItems

variable
  {record : Record} {slot : Slot record.kind.Value}
  {before after : List Json} {json changed : Json}

/-- With the keys of the record in front, an item stands under the key of its
slot, and no earlier item does. -/
theorem zip_keys_middle
    (atPosition : record.slots[before.length]? = some slot)
    (after : List Json) :
    ∃ earlier later : List (String × Json),
      slot.key ∉ earlier.map Prod.fst ∧
        ∀ item, record.keys.zip (before ++ item :: after) =
          earlier ++ (slot.key, item) :: later := by
  obtain ⟨inRange, slotEq⟩ := List.getElem?_eq_some_iff.mp atPosition
  let front := (record.slots.take before.length).map Slot.key
  let back := (record.slots.drop (before.length + 1)).map Slot.key
  have keysSplit : record.keys = front ++ slot.key :: back := by
    rw [Record.keys, ← List.map_cons, ← List.map_append, ← slotEq,
      List.getElem_cons_drop, List.take_append_drop]
  have sameLength : front.length = before.length := by
    rw [List.length_map, List.length_take]
    omega
  refine ⟨front.zip before, back.zip after, ?_, ?_⟩
  · have distinct := record.keys_nodup
    rw [keysSplit, List.nodup_middle] at distinct
    have absent := (List.nodup_cons.mp distinct).1
    rw [List.map_fst_zip (Nat.le_of_eq sameLength)]
    intro early
    exact absent (List.mem_append_left back early)
  · intro item
    rw [keysSplit, List.zip_append sameLength, List.zip_cons_cons]

theorem readAlike_item
    (atPosition : record.slots[before.length]? = some slot)
    (inner : ReadAlike slot.place.decode json changed) :
    ReadAlike (decode record.kind)
      (.array (before ++ json :: after))
      (.array (before ++ changed :: after)) := by
  obtain ⟨earlier, later, absent, zipped⟩ :=
    zip_keys_middle atPosition after
  have slotMember := List.mem_of_getElem? atPosition
  have sameLength :
      (before ++ json :: after).length =
        (before ++ changed :: after).length := by
    simp only [List.length_append, List.length_cons]
  intro value
  rw [decode_array_iff, decode_array_iff, zipped, zipped, sameLength,
    readAlike_field slotMember absent inner value]

theorem not_succeeds_item
    (atPosition : record.slots[before.length]? = some slot)
    (refused : ¬ Succeeds (slot.place.decode changed)) :
    ¬ Succeeds
      (decode record.kind (.array (before ++ changed :: after))) := by
  obtain ⟨earlier, later, absent, zipped⟩ :=
    zip_keys_middle atPosition after
  have slotMember := List.mem_of_getElem? atPosition
  rintro ⟨value, accepted⟩
  have asObject := (decode_array_iff record).mp accepted |>.2.2
  rw [zipped] at asObject
  exact not_succeeds_field slotMember absent refused ⟨value, asObject⟩

end AroundItems

section AroundMembers

variable
  {kind : Kind} {before after : List Json} {json changed : Json}

theorem decodeList_middle_iff
    {item : Json} {values : List kind.Value} :
    decodeList (decode kind) (.array (before ++ item :: after)) =
        .ok values ↔
      ∃ earlier, before.mapM (decode kind) = .ok earlier ∧
        ∃ value, decode kind item = .ok value ∧
          ∃ later, after.mapM (decode kind) = .ok later ∧
            earlier ++ value :: later = values := by
  simp only [decodeList, List.mapM_append, List.mapM_cons, bind_eq_ok_iff,
    pure_eq_ok, Except.ok.injEq]
  constructor
  · rintro ⟨earlier, earlierRead, _, ⟨value, read, later, laterRead, rfl⟩,
      together⟩
    exact ⟨earlier, earlierRead, value, read, later, laterRead, together⟩
  · rintro ⟨earlier, earlierRead, value, read, later, laterRead, together⟩
    exact ⟨earlier, earlierRead, _, ⟨value, read, later, laterRead, rfl⟩,
      together⟩

theorem readAlike_member
    (inner : ReadAlike (decode kind) json changed) :
    ReadAlike (decodeList (decode kind))
      (.array (before ++ json :: after))
      (.array (before ++ changed :: after)) := by
  intro values
  rw [decodeList_middle_iff, decodeList_middle_iff]
  simp only [inner _]

theorem not_succeeds_member
    (refused : ¬ Succeeds (decode kind changed)) :
    ¬ Succeeds
      (decodeList (decode kind) (.array (before ++ changed :: after))) := by
  rintro ⟨values, accepted⟩
  obtain ⟨_, _, value, read, _⟩ := decodeList_middle_iff.mp accepted
  exact refused ⟨value, read⟩

end AroundMembers

section AroundTargets

variable (via : Indirection) {json changed : Json}

theorem decodeType_indirect_iff {type : NativeType} :
    decodeType (.object [(Vocabulary.name via, json)]) = .ok type ↔
      ∃ target, decodeQualifiedType json = .ok target ∧
        .indirect via target.type target.isConst = type := by
  have names := name_indirection_ne via
  rw [decodeType, if_neg names.1, if_neg names.2,
    LawfulVocabulary.find?_name]
  simp only [bind_eq_ok_iff, pure_eq_ok, Except.ok.injEq]

theorem readAlike_target
    (inner : ReadAlike decodeQualifiedType json changed) :
    ReadAlike decodeType
      (.object [(Vocabulary.name via, json)])
      (.object [(Vocabulary.name via, changed)]) := by
  intro type
  rw [decodeType_indirect_iff, decodeType_indirect_iff]
  simp only [inner _]

theorem not_succeeds_target
    (refused : ¬ Succeeds (decodeQualifiedType changed)) :
    ¬ Succeeds (decodeType (.object [(Vocabulary.name via, changed)])) := by
  rintro ⟨type, accepted⟩
  obtain ⟨target, read, _⟩ := (decodeType_indirect_iff via).mp accepted
  exact refused ⟨target, read⟩

end AroundTargets

namespace Inside

variable
  {change : Record → Json → Json → Prop} {place : Place}
  {json changed : Json}

/-- A change that keeps what a record says keeps what the document says. -/
theorem readAlike
    (keeps : ∀ record json changed, change record json changed →
      ReadAlike (Schema.decode record.kind) json changed)
    (inside : Inside change place json changed) :
    ReadAlike place.decode json changed := by
  induction inside with
  | here changes => exact keeps _ _ _ changes
  | field slotMember absent _ inner =>
      exact readAlike_field slotMember absent inner
  | item atPosition _ inner => exact readAlike_item atPosition inner
  | member _ inner => exact readAlike_member inner
  | target via _ inner => exact readAlike_target via inner

/-- Several changes, one after the other, keep it as well. -/
theorem readAlike_closure
    (keeps : ∀ record json changed, change record json changed →
      ReadAlike (Schema.decode record.kind) json changed)
    (changes : Relation.ReflTransGen (Inside change place) json changed) :
    ReadAlike place.decode json changed := by
  intro value
  induction changes with
  | refl => exact Iff.rfl
  | tail _ last inductionHypothesis =>
      exact inductionHypothesis.trans (last.readAlike keeps value)

/-- A document with a record that cannot be read cannot be read. -/
theorem not_succeeds
    (refuses : ∀ record json changed, change record json changed →
      ¬ Succeeds (Schema.decode record.kind changed))
    (inside : Inside change place json changed) :
    ¬ Succeeds (place.decode changed) := by
  induction inside with
  | here changes => exact refuses _ _ _ changes
  | field slotMember absent _ inner =>
      exact not_succeeds_field slotMember absent inner
  | item atPosition _ inner => exact not_succeeds_item atPosition inner
  | member _ inner => exact not_succeeds_member inner
  | target via _ inner => exact not_succeeds_target via inner

end Inside

end ManagedBinding.Schema
