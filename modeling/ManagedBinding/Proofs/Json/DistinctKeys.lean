import ManagedBinding.Json.Basic

/-!
# Objects that say everything once

An object is kept as a list of fields and read by its first field with a key.
Where no key occurs twice, the first field is the only one, and the object is
the finite map that its text stands for.
-/

namespace ManagedBinding.Json

/-- No object in the value, at any depth, has two fields with one key. -/
inductive HasDistinctKeys : Json → Prop
  | null : HasDistinctKeys .null
  | boolean (value : Bool) : HasDistinctKeys (.boolean value)
  | number (value : JsonNumber) : HasDistinctKeys (.number value)
  | string (value : String) : HasDistinctKeys (.string value)
  | array (items : List Json) :
      (∀ item ∈ items, HasDistinctKeys item) →
      HasDistinctKeys (.array items)
  | object (fields : List (String × Json)) :
      (fields.map Prod.fst).Nodup →
      (∀ field ∈ fields, HasDistinctKeys field.2) →
      HasDistinctKeys (.object fields)

namespace HasDistinctKeys

/-- An object with one field says everything once if its value does. -/
theorem singleton {value : Json} (key : String)
    (distinct : value.HasDistinctKeys) :
    (Json.object [(key, value)]).HasDistinctKeys := by
  refine .object _ (List.pairwise_singleton _ _) ?_
  intro field member
  rw [List.mem_singleton] at member
  subst member
  exact distinct

/-- An array of the images of a list says everything once if all images
do. -/
theorem array_map {α : Type} {encode : α → Json}
    (distinct : ∀ item, (encode item).HasDistinctKeys) (items : List α) :
    (Json.array (items.map encode)).HasDistinctKeys := by
  refine .array _ ?_
  intro image member
  obtain ⟨item, _, rfl⟩ := List.mem_map.mp member
  exact distinct item

end HasDistinctKeys

end ManagedBinding.Json
