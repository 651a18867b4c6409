import ManagedBinding.Proofs.Schema.FieldChanges

/-!
# Records as arrays

A record that stands for itself may be written as the array of its values, in
the order of its fields; the values at the end may be left out if they are
defaults.  In the JSON form of a value any of these records may be written so,
at any depth, and the value is still read back.

A class or member shares its object with its declaration, and such an object
has no order to go by: an array in its place is never read.
-/

namespace ManagedBinding.Schema

/-- An object that fills the fields of a record in their order becomes the
array of its values, without some defaults at the end. -/
inductive Listed (record : Record) : Json → Json → Prop
  | values {kept dropped : List (String × Json)} :
      record.isPositional = true →
      (kept ++ dropped).map Prod.fst = record.keys →
      (∀ field ∈ dropped, record.HasDefault field.1 field.2) →
      Listed record (.object (kept ++ dropped))
        (.array (kept.map Prod.snd))

/-- The object of a class or member becomes an array. -/
inductive Enlisted (record : Record) : Json → Json → Prop
  | array {fields : List (String × Json)} {items : List Json} :
      record.isPositional = false →
      Enlisted record (.object fields) (.array items)

section Fields

variable {record : Record}

/-- Defaults at the end of an object may be dropped. -/
theorem readAlike_dropped
    {kept dropped : List (String × Json)}
    (distinct : ((kept ++ dropped).map Prod.fst).Nodup)
    (defaults : ∀ field ∈ dropped, record.HasDefault field.1 field.2) :
    ReadAlike (decode record.kind)
      (.object (kept ++ dropped)) (.object kept) := by
  induction dropped with
  | nil =>
      rw [List.append_nil]
      exact fun _ => Iff.rfl
  | cons field rest inductionHypothesis =>
      rw [List.forall_mem_cons] at defaults
      rw [List.map_append, List.map_cons, List.nodup_middle,
        ← List.map_append] at distinct
      obtain ⟨absent, restDistinct⟩ := List.nodup_cons.mp distinct
      have first :
          ReadAlike (decode record.kind)
            (.object (kept ++ field :: rest)) (.object (kept ++ rest)) :=
        readAlike_default defaults.1 absent
      have others := inductionHypothesis restDistinct defaults.2
      exact fun value => (first value).trans (others value)

theorem zip_keys_values
    (kept : List (String × Json)) (laterKeys : List String) :
    (kept.map Prod.fst ++ laterKeys).zip (kept.map Prod.snd) = kept := by
  induction kept with
  | nil => simp
  | cons field rest inductionHypothesis =>
      simp only [List.map_cons, List.cons_append, List.zip_cons_cons,
        inductionHypothesis]

theorem Listed.readAlike
    {json changed : Json} (listed : Listed record json changed) :
    ReadAlike (decode record.kind) json changed := by
  cases listed with
  | @values kept dropped positional inOrder defaults =>
      have distinct : ((kept ++ dropped).map Prod.fst).Nodup := by
        rw [inOrder]
        exact record.keys_nodup
      have keysSplit :
          record.keys = kept.map Prod.fst ++ dropped.map Prod.fst := by
        rw [← inOrder, List.map_append]
      have fits : (kept.map Prod.snd).length ≤ record.keys.length := by
        rw [keysSplit, List.length_append, List.length_map,
          List.length_map]
        exact Nat.le_add_right _ _
      intro value
      rw [readAlike_dropped distinct defaults value, decode_array_iff,
        keysSplit, zip_keys_values, and_iff_right positional,
        and_iff_right (keysSplit ▸ fits)]

/-- The JSON form of a record that stands for itself has all of its fields in
order, so that it may be listed. -/
theorem listed_encode
    (positional : record.isPositional = true) (value : record.kind.Value) :
    ∃ items, Listed record (encode record.kind value) (.array items) := by
  have noneDropped :
      ∀ field ∈ ([] : List (String × Json)),
        record.HasDefault field.1 field.2 := List.forall_mem_nil _
  cases record with
  | compilationUnit =>
      exact ⟨_, @Listed.values .compilationUnit [_, _] [] rfl rfl
        noneDropped⟩
  | parameter =>
      exact ⟨_, @Listed.values .parameter [_, _] [] rfl rfl noneDropped⟩
  | declaration =>
      exact ⟨_, @Listed.values .declaration [_, _, _, _, _] [] rfl rfl
        noneDropped⟩
  | qualifiedType =>
      exact ⟨_, @Listed.values .qualifiedType [_, _] [] rfl rfl noneDropped⟩
  | nativeClass => cases positional
  | method => cases positional
  | field => cases positional
  | event => cases positional

theorem Enlisted.not_succeeds
    {json changed : Json} (enlisted : Enlisted record json changed) :
    ¬ Succeeds (decode record.kind changed) := by
  cases enlisted with
  | array shared =>
      rintro ⟨value, accepted⟩
      have positional := ((decode_array_iff record).mp accepted).1
      rw [shared] at positional
      cases positional

end Fields

/-- In the JSON form of a value, the units, parameters, qualified types and
declarations may be written as arrays of their values without some defaults at
the end, any number of them and at any depth: the value is read back.  A
document in which a class or member has become an array is refused. -/
theorem decode_of_positional_forms (kind : Kind) (value : kind.Value) :
    (∀ json,
        Relation.ReflTransGen (Inside Listed (.value kind))
          (encode kind value) json →
        decode kind json = .ok value) ∧
      ∀ json changed,
        Inside Enlisted (.value kind) json changed →
        ∃ fault, decode kind changed = .error fault := by
  constructor
  · intro json changes
    have alike :=
      Inside.readAlike_closure (fun _ _ _ => Listed.readAlike) changes value
    exact alike.mp (decode_encode_eq_ok kind value)
  · intro json changed enlisted
    apply exists_fault_of_not_succeeds
    exact enlisted.not_succeeds fun _ _ _ => Enlisted.not_succeeds

def timerEvent (parameterType : Json) : Json :=
  .object
    (declarationFields (.named "Elapsed") ++
      [("parameters", .array [parameterType])])

/-- All fields of the written class but its events. -/
def timerFields : List (String × Json) :=
  declarationFields (.named "Timer") ++
    [("is_value_type", .boolean false), ("methods", .array []),
      ("fields", .array [])]

def timerClass (event : Json) : Json :=
  .object (timerFields ++ [("events", .array [event])])

/-- The unit is an array and so is the type inside it, without its default;
and the class must not be one. -/
theorem decode_of_positional_timer :
    let ticks := QualifiedType.pointerTo (.builtin .int)
    let unit :=
      (CompilationUnit.ofFile "timer.h").withClass <|
        (Class.named "Timer").withEvent (.named "Elapsed" [ticks])
    let listed : Json :=
      .array
        [.string "timer.h",
          .array
            [timerClass (timerEvent (.array [encodeType ticks.type]))]]
    let enlisted : Json :=
      .object
        [("file_name", .string "timer.h"),
          ("classes", .array [.array [.string "Timer"]])]
    Relation.ReflTransGen (Inside Listed (.value .unit))
        (encode .unit unit) listed ∧
      decode .unit listed = .ok unit ∧
      Inside Enlisted (.value .unit) (encode .unit unit) enlisted ∧
      ∃ fault, decode .unit enlisted = .error fault := by
  intro ticks unit listed enlisted
  have inClasses
      {change : Record → Json → Json → Prop} {before after : Json}
      (step : Inside change (.value .nativeClass) before after) :
      Inside change (.value .unit)
        (.object
          [("file_name", .string "timer.h"), ("classes", .array [before])])
        (.object
          [("file_name", .string "timer.h"), ("classes", .array [after])]) :=
    @Inside.field change .compilationUnit
      ⟨"classes", .list .nativeClass, some [], CompilationUnit.classes⟩
      [("file_name", .string "timer.h")] [] _ _
      (List.mem_of_getElem? (i := 1) rfl) (by decide)
      (@Inside.member change .nativeClass [] [] _ _ step)
  have typeListed :
      Inside Listed (.value .qualifiedType) (encodeQualifiedType ticks)
        (.array [encodeType ticks.type]) :=
    @Inside.here Listed .qualifiedType _ _
      (@Listed.values .qualifiedType [("type", encodeType ticks.type)]
        [("is_const", .boolean false)] rfl rfl
        (by
          rw [List.forall_mem_singleton]
          exact ⟨_, List.mem_of_getElem? (i := 1) rfl, rfl, false, rfl,
            rfl⟩))
  have eventListed :
      Inside Listed (.value .event)
        (timerEvent (encodeQualifiedType ticks))
        (timerEvent (.array [encodeType ticks.type])) :=
    @Inside.field Listed .event
      ⟨"parameters", .list .qualifiedType, some [], Event.parameterTypes⟩
      (declarationFields (.named "Elapsed")) [] _ _
      (List.mem_of_getElem? (i := 0) rfl) (by decide)
      (@Inside.member Listed .qualifiedType [] [] _ _ typeListed)
  have classListed :
      Inside Listed (.value .nativeClass)
        (timerClass (timerEvent (encodeQualifiedType ticks)))
        (timerClass (timerEvent (.array [encodeType ticks.type]))) :=
    @Inside.field Listed .nativeClass
      ⟨"events", .list .event, some [], Class.events⟩
      timerFields [] _ _ (List.mem_of_getElem? (i := 3) rfl) (by decide)
      (@Inside.member Listed .event [] [] _ _ eventListed)
  have unitListed :
      Inside Listed (.value .unit)
        (.object
          [("file_name", .string "timer.h"),
            ("classes",
              .array
                [timerClass
                  (timerEvent (.array [encodeType ticks.type]))])])
        listed :=
    @Inside.here Listed .compilationUnit _ _
      (@Listed.values .compilationUnit [_, _] [] rfl rfl (by simp))
  have changes :
      Relation.ReflTransGen (Inside Listed (.value .unit))
        (encode .unit unit) listed :=
    (Relation.ReflTransGen.single (inClasses classListed)).tail unitListed
  have classEnlisted :
      Inside Enlisted (.value .unit) (encode .unit unit) enlisted :=
    inClasses (@Inside.here Enlisted .nativeClass _ _ (.array rfl))
  have forms := decode_of_positional_forms .unit unit
  exact ⟨changes, forms.1 listed changes, classEnlisted,
    forms.2 _ enlisted classEnlisted⟩

end ManagedBinding.Schema
