import ManagedBinding.Model.Geometry
import ManagedBinding.Proofs.Header.Refinement
import Mathlib.Data.Finset.Card
import Mathlib.Data.Finset.Dedup

/-!
# Registrations of hooks

A table of hooks is made by registrations, one after another.  What it answers
for a file name is the hook of the last registration for this name, and a
registration hands back what the table has answered until then.

A rendering asks the table once, for the file name of its unit.  So histories
of any length, in which the last registrations for this name have the same
hook, render the unit alike.
-/

namespace ManagedBinding.HookTable

variable {η : Type}

private theorem lookup_cons_eq_ite
    (present : String) (hook : η) (rest : List (String × η))
    (asked : String) :
    ((present, hook) :: rest).lookup asked =
      if asked = present then some hook else rest.lookup asked := by
  rw [List.lookup_cons]
  by_cases same : asked = present
  · rw [if_pos same, beq_iff_eq.mpr same]
  · rw [if_neg same, beq_eq_false_iff_ne.mpr same]

theorem lookup_replaceOrAdd
    (fileName : String) (hook : η) (entries : List (String × η))
    (asked : String) :
    (replaceOrAdd fileName hook entries).lookup asked =
      if asked = fileName then some hook else entries.lookup asked := by
  induction entries with
  | nil => exact lookup_cons_eq_ite fileName hook [] asked
  | cons entry rest inductionHypothesis =>
      obtain ⟨present, old⟩ := entry
      rw [replaceOrAdd, lookup_cons_eq_ite]
      by_cases replaces : present = fileName
      · rw [if_pos replaces, lookup_cons_eq_ite, replaces]
        by_cases same : asked = fileName
        · rw [if_pos same, if_pos same]
        · rw [if_neg same, if_neg same, if_neg same]
      · rw [if_neg replaces, lookup_cons_eq_ite, inductionHypothesis]
        by_cases isPresent : asked = present
        · have other : asked ≠ fileName := isPresent ▸ replaces
          rw [if_pos isPresent, if_neg other, if_pos isPresent]
        · rw [if_neg isPresent, if_neg isPresent]

/-- A registration changes the answer for its own file name only. -/
theorem get?_register
    (table : HookTable η) (fileName : String) (hook : η) (asked : String) :
    (table.register fileName hook).2.get? asked =
      if asked = fileName then some hook else table.get? asked :=
  lookup_replaceOrAdd fileName hook table.entries asked

/-- The file names that have a hook. -/
def names (table : HookTable η) : Finset String :=
  (table.entries.map Prod.fst).toFinset

theorem size_eq_card_names (table : HookTable η) :
    table.size = table.names.card := by
  rw [names, List.toFinset_card_of_nodup table.nodup, List.length_map]
  rfl

theorem names_register
    (table : HookTable η) (fileName : String) (hook : η) :
    (table.register fileName hook).2.names = insert fileName table.names := by
  have registered :
      (table.register fileName hook).2.names =
        ((replaceOrAdd fileName hook table.entries).map
          Prod.fst).toFinset := rfl
  rw [registered, replaceOrAdd_names]
  by_cases known : fileName ∈ table.entries.map Prod.fst
  · rw [if_pos known]
    exact (Finset.insert_eq_of_mem (List.mem_toFinset.mpr known)).symm
  · rw [if_neg known, List.toFinset_append]
    exact Finset.union_comm _ {fileName}

/-- Make registrations one after another.  The hooks that they replace come
back in order, with the table at the end. -/
def registerAll (table : HookTable η) :
    List (String × η) → List (Option η) × HookTable η
  | [] => ([], table)
  | registration :: rest =>
      let step := table.register registration.1 registration.2
      let others := step.2.registerAll rest
      (step.1 :: others.1, others.2)

/-- The table that registrations make from the empty one. -/
def ofRegistrations (registrations : List (String × η)) : HookTable η :=
  (empty.registerAll registrations).2

/-- The hook of the last registration for a file name. -/
def lastHook? (registrations : List (String × η)) (fileName : String) :
    Option η :=
  (registrations.filter fun registration =>
    registration.1 = fileName).getLast?.map Prod.snd

/-- The first registration counts as long as no later one is for the same
file name, and then takes the place of what was there before. -/
theorem lastHook?_cons_or
    (registration : String × η) (rest : List (String × η))
    (fileName : String) (before : Option η) :
    (lastHook? (registration :: rest) fileName).or before =
      (lastHook? rest fileName).or
        (if fileName = registration.1 then
          some registration.2
        else
          before) := by
  rw [lastHook?, lastHook?]
  by_cases own : registration.1 = fileName
  · rw [List.filter_cons, decide_eq_true own, if_pos rfl, if_pos own.symm,
      List.getLast?_cons]
    cases (rest.filter _).getLast? with
    | none => rfl
    | some last => rfl
  · rw [List.filter_cons, decide_eq_false own, if_neg Bool.false_ne_true,
      if_neg (Ne.symm own)]

/-- Registrations for other file names do not matter. -/
theorem lastHook?_filter
    (registrations : List (String × η)) (fileName : String) :
    lastHook?
        (registrations.filter fun registration =>
          registration.1 = fileName) fileName =
      lastHook? registrations fileName := by
  rw [lastHook?, lastHook?, List.filter_filter]
  simp only [Bool.and_self]

theorem get?_registerAll
    (table : HookTable η) (registrations : List (String × η))
    (fileName : String) :
    (table.registerAll registrations).2.get? fileName =
      (lastHook? registrations fileName).or (table.get? fileName) := by
  induction registrations generalizing table with
  | nil => rfl
  | cons registration rest inductionHypothesis =>
      rw [registerAll, inductionHypothesis, get?_register,
        lastHook?_cons_or]

/-- A registration replaces the hook of the last one before it for the same
file name, or else that of the table at the start. -/
theorem replaced_registerAll
    (table : HookTable η) (registrations : List (String × η)) :
    (table.registerAll registrations).1 =
      registrations.mapIdx fun index registration =>
        (lastHook? (registrations.take index) registration.1).or
          (table.get? registration.1) := by
  induction registrations generalizing table with
  | nil => rfl
  | cons registration rest inductionHypothesis =>
      rw [registerAll, inductionHypothesis, List.mapIdx_cons]
      simp only [get?_register, List.take_succ_cons, lastHook?_cons_or]
      rfl

theorem names_registerAll
    (table : HookTable η) (registrations : List (String × η)) :
    (table.registerAll registrations).2.names =
      table.names ∪ (registrations.map Prod.fst).toFinset := by
  induction registrations generalizing table with
  | nil => exact (Finset.union_empty table.names).symm
  | cons registration rest inductionHypothesis =>
      rw [registerAll, inductionHypothesis, names_register, List.map_cons,
        List.toFinset_cons, Finset.insert_union, Finset.union_insert]

theorem replaceOrAdd_of_not_mem
    {fileName : String} (hook : η) {entries : List (String × η)}
    (absent : fileName ∉ entries.map Prod.fst) :
    replaceOrAdd fileName hook entries = entries ++ [(fileName, hook)] := by
  induction entries with
  | nil => rfl
  | cons entry rest inductionHypothesis =>
      rw [List.map_cons, List.mem_cons, not_or] at absent
      rw [replaceOrAdd, if_neg (Ne.symm absent.1),
        inductionHypothesis absent.2]
      rfl

theorem entries_registerAll
    (table : HookTable η) {added : List (String × η)}
    (distinct : ((table.entries ++ added).map Prod.fst).Nodup) :
    (table.registerAll added).2.entries = table.entries ++ added := by
  induction added generalizing table with
  | nil => exact (List.append_nil table.entries).symm
  | cons registration rest inductionHypothesis =>
      have absent : registration.1 ∉ table.entries.map Prod.fst := by
        rw [List.map_append, List.map_cons,
          List.nodup_middle, List.nodup_cons] at distinct
        exact fun present => distinct.1 (List.mem_append_left _ present)
      have registered :
          (table.register registration.1 registration.2).2.entries =
            table.entries ++ [registration] :=
        replaceOrAdd_of_not_mem registration.2 absent
      have stillDistinct :
          (((table.register registration.1 registration.2).2.entries ++
            rest).map Prod.fst).Nodup := by
        rw [registered, List.append_assoc]
        exact distinct
      rw [registerAll, inductionHypothesis _ stillDistinct, registered,
        List.append_assoc]
      rfl

/-- There are no other tables than those that registrations make. -/
theorem exists_ofRegistrations_eq (table : HookTable η) :
    ∃ registrations, ofRegistrations registrations = table := by
  have sameEntries :
      (ofRegistrations table.entries).entries = table.entries :=
    entries_registerAll empty table.nodup
  refine ⟨table.entries, ?_⟩
  rcases made : ofRegistrations table.entries with ⟨entries, _⟩
  rw [made] at sameEntries
  subst sameEntries
  rfl

theorem get?_ofRegistrations
    (registrations : List (String × η)) (fileName : String) :
    (ofRegistrations registrations).get? fileName =
      lastHook? registrations fileName :=
  (get?_registerAll empty registrations fileName).trans Option.or_none

/-- A table answers with the hook of the last registration for a file name,
every registration hands back the hook that it replaces, and the size of the
table is the number of distinct file names.  No rendering tells apart two
histories whose last registrations for its unit have the same hook;
registrations for other file names can be left out. -/
theorem registrations_last_wins (registrations : List (String × η)) :
    (∀ fileName,
      (ofRegistrations registrations).get? fileName =
        lastHook? registrations fileName) ∧
      (empty.registerAll registrations).1 =
        registrations.mapIdx (fun index registration =>
          lastHook? (registrations.take index) registration.1) ∧
      (ofRegistrations registrations).size =
        (registrations.map Prod.fst).toFinset.card ∧
      ∀ (layout : Layout η) (unit : CompilationUnit) (options : Options)
        (printer : TypePrinter),
        renderUnit layout unit options printer
              (ofRegistrations registrations) =
            renderUnit layout unit options printer
              (ofRegistrations
                (registrations.filter fun registration =>
                  registration.1 = unit.fileName)) ∧
          ∀ others : List (String × η),
            lastHook? registrations unit.fileName =
                lastHook? others unit.fileName →
              renderUnit layout unit options printer
                  (ofRegistrations registrations) =
                renderUnit layout unit options printer
                  (ofRegistrations others) := by
  refine ⟨get?_ofRegistrations registrations, ?_, ?_, ?_⟩
  · have noneBefore (fileName : String) :
        (empty : HookTable η).get? fileName = none := rfl
    have replaced := replaced_registerAll empty registrations
    simp only [noneBefore, Option.or_none] at replaced
    exact replaced
  · have nameless : (empty : HookTable η).names = ∅ := rfl
    have allNames := names_registerAll empty registrations
    rw [nameless, Finset.empty_union] at allNames
    rw [size_eq_card_names, ofRegistrations, allNames]
  · intro layout unit options printer
    refine ⟨?_, ?_⟩
    · rw [renderUnit, renderUnit, get?_ofRegistrations,
        get?_ofRegistrations, lastHook?_filter]
    · intro others sameLast
      rw [renderUnit, renderUnit, get?_ofRegistrations,
        get?_ofRegistrations, sameLast]

/-- A hook that writes one line at the start. -/
def lineAtStart (name : String) : Header.LineHook := ⟨name, ["// " ++ name], []⟩

/-- Registrations with another unit in between. -/
def geometryHistory : List (String × Header.LineHook) :=
  [("geometry.h", lineAtStart "first"), ("other.h", lineAtStart "other"),
    ("geometry.h", lineAtStart "second")]

/-- The hook that has been replaced leaves no trace. -/
theorem registrations_last_wins_geometry :
    (ofRegistrations geometryHistory).get? "geometry.h" =
        some (lineAtStart "second") ∧
      (empty.registerAll geometryHistory).1 =
        [none, none, some (lineAtStart "first")] ∧
      (ofRegistrations geometryHistory).size = 2 ∧
      renderUnit Header.layout Geometry.unit .standard .native
          (ofRegistrations geometryHistory) =
        renderUnit Header.layout Geometry.unit .standard .native
          (ofRegistrations [("geometry.h", lineAtStart "second")]) := by
  obtain ⟨answers, replaced, size, rendered⟩ :=
    registrations_last_wins geometryHistory
  exact ⟨answers "geometry.h", replaced, size,
    (rendered Header.layout Geometry.unit .standard .native).2
      [("geometry.h", lineAtStart "second")] rfl⟩

end ManagedBinding.HookTable
