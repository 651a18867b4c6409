import ManagedBinding.Number.Binary64

/-!
JSON values. An object is the list of its fields; what an object says is seen
through `List.lookup`, so the order of its fields does not matter.
-/

namespace ManagedBinding

/-- A JSON number: one written without point and exponent, or a double. -/
inductive JsonNumber
  | integer (value : Int)
  | fraction (value : Number.Binary64)
  deriving DecidableEq, Repr, Inhabited

inductive Json
  | null
  | boolean (value : Bool)
  | number (value : JsonNumber)
  | string (value : String)
  | array (items : List Json)
  | object (fields : List (String × Json))
  deriving Repr, Inhabited

namespace Json

/-- The field of an object; values of other shapes have no fields. -/
def field? (value : Json) (key : String) : Option Json :=
  match value with
  | .object fields => fields.lookup key
  | _ => none

/-- Set a field: in its place when the key is there already, else behind the
other fields. -/
def setField
    (fields : List (String × Json)) (key : String) (value : Json) :
    List (String × Json) :=
  match fields with
  | [] => [(key, value)]
  | (present, old) :: rest =>
      if present = key then
        (key, value) :: rest
      else
        (present, old) :: setField rest key value

/-- A value found under a key is smaller than the list of fields. -/
theorem sizeOf_lt_of_lookup
    {fields : List (String × Json)} {key : String} {value : Json}
    (found : fields.lookup key = some value) :
    sizeOf value < sizeOf fields := by
  induction fields with
  | nil =>
      simp at found
  | cons entry rest inductionHypothesis =>
      obtain ⟨present, stored⟩ := entry
      rw [List.lookup_cons] at found
      split at found
      · injection found with equality
        subst equality
        simp only [List.cons.sizeOf_spec, Prod.mk.sizeOf_spec]
        omega
      · have smaller := inductionHypothesis found
        simp only [List.cons.sizeOf_spec]
        omega

end Json

end ManagedBinding
