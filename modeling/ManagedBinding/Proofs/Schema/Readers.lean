import ManagedBinding.Schema.Kind

/-!
# Reading the fields of a record

A decoder sees an object only through its field readers.  The equations below
say what a reader finds in a list of fields that is built up field by field,
and when it looks past a group of fields that belongs to someone else:

* a reader stops at the first field with its key;
* it passes over every field with another key;
* the fields of a declaration are in the way of no other key.

They are stated for arbitrary lists of fields, so they serve written records
as well as records that arrive from outside.
-/

namespace ManagedBinding.Schema

variable {α β : Type}

/-- A decoder that has succeeded hands its value to the next one. -/
@[simp]
theorem ok_bind (value : α) (next : α → Decoded β) :
    ((.ok value : Decoded α) >>= next) = next value :=
  rfl

@[simp]
theorem pure_eq_ok (value : α) :
    (pure value : Decoded α) = .ok value :=
  rfl

@[simp]
theorem map_ok (transform : α → β) (value : α) :
    (.ok value : Decoded α).map transform = .ok (transform value) :=
  rfl

section FieldReaders

variable
  {key present : String} {json : Json} {fields rest : List (String × Json)}
  {decode : Json → Decoded α} {default : α}

@[simp]
theorem decodeFieldD_cons_self :
    decodeFieldD ((key, json) :: rest) key decode default =
      decode json := by
  rw [decodeFieldD, List.lookup_cons_self]

theorem decodeFieldD_cons_of_ne (different : key ≠ present) :
    decodeFieldD ((present, json) :: rest) key decode default =
      decodeFieldD rest key decode default := by
  rw [decodeFieldD, List.lookup_cons, beq_false_of_ne different]
  rfl

@[simp]
theorem decodeField?_cons_self :
    decodeField? ((key, json) :: rest) key decode =
      (decode json).map some := by
  rw [decodeField?, List.lookup_cons_self]

theorem decodeField?_cons_of_ne (different : key ≠ present) :
    decodeField? ((present, json) :: rest) key decode =
      decodeField? rest key decode := by
  rw [decodeField?, List.lookup_cons, beq_false_of_ne different]
  rfl

/-- A list of fields without the key leaves the look-up to what follows. -/
theorem lookup_append_of_not_mem
    (absent : key ∉ fields.map Prod.fst) :
    (fields ++ rest).lookup key = rest.lookup key := by
  have unknown : fields.lookup key = none := by
    rw [List.lookup_eq_none_iff]
    intro field member
    rw [bne_iff_ne]
    intro equality
    exact absent (List.mem_map.mpr ⟨field, member, equality.symm⟩)
  rw [List.lookup_append, unknown, Option.none_or]

end FieldReaders

/-- The keys that a declaration takes in every record that contains it. -/
def declarationKeys : List String :=
  ["name", "namespace", "access", "ignore", "comment"]

@[simp]
theorem declarationFields_keys (declaration : Declaration) :
    (declarationFields declaration).map Prod.fst = declarationKeys :=
  rfl

section BehindDeclaration

variable {key : String} {decode : Json → Decoded α} {default : α}

/-- The declaration takes no key from the record around it. -/
theorem decodeFieldD_behind_declaration
    (declaration : Declaration) (own : List (String × Json))
    (foreign : key ∉ declarationKeys) :
    decodeFieldD (declarationFields declaration ++ own) key decode default =
      decodeFieldD own key decode default := by
  have passed :
      (declarationFields declaration ++ own).lookup key = own.lookup key :=
    lookup_append_of_not_mem foreign
  rw [decodeFieldD, decodeFieldD, passed]

theorem decodeField?_behind_declaration
    (declaration : Declaration) (own : List (String × Json))
    (foreign : key ∉ declarationKeys) :
    decodeField? (declarationFields declaration ++ own) key decode =
      decodeField? own key decode := by
  have passed :
      (declarationFields declaration ++ own).lookup key = own.lookup key :=
    lookup_append_of_not_mem foreign
  rw [decodeField?, decodeField?, passed]

end BehindDeclaration

/-- A qualified type is read like every other record: the optional field,
then the required one. -/
theorem decodeQualifiedType_object (fields : List (String × Json)) :
    decodeQualifiedType (.object fields) = (do
      let isConst ← decodeFieldD fields "is_const" decodeBoolean false
      let type ← decodeField? fields "type" decodeType
      let type ← required "type" type
      return ⟨type, isConst⟩) := by
  rw [decodeQualifiedType, decodeField?]
  cases decodeFieldD fields "is_const" decodeBoolean false with
  | error fault =>
      rfl
  | ok isConst =>
      rw [ok_bind, ok_bind]
      split
      · next json found =>
          simp only [found]
          cases decodeType json <;> rfl
      · next missing =>
          simp only [missing]
          rfl

end ManagedBinding.Schema
