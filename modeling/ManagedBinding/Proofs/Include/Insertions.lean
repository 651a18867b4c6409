import ManagedBinding.Include
import Mathlib.Data.Finset.Card
import Mathlib.Data.Finset.Dedup
import Mathlib.Data.List.Perm.Basic

/-!
# Insertions into a set of includes

A set of includes is made by insertions, from the empty set or from the
includes of a list.  It holds what has been inserted, each include once, and in
the order in which the includes have first come.  That determines its items,
and with them everything that the set answers.
-/

namespace ManagedBinding.IncludeSet

/-- Insert includes one after another.  The answers of the insertions come
back in order, with the set at the end. -/
def insertAll (includes : IncludeSet) :
    List Include → List Bool × IncludeSet
  | [] => ([], includes)
  | item :: rest =>
      let step := includes.insertNew item
      let others := step.2.insertAll rest
      (step.1 :: others.1, others.2)

/-- The items are the members of the history, in the order in which they first
occur there. -/
structure FirstOccurrences (history items : List Include) : Prop where
  mem_iff : ∀ item, item ∈ items ↔ item ∈ history
  inOrder :
    items.Pairwise fun earlier later =>
      history.idxOf earlier < history.idxOf later

namespace FirstOccurrences

variable {history items others : List Include}

theorem nodup (firsts : FirstOccurrences history items) : items.Nodup := by
  refine firsts.inOrder.imp ?_
  rintro earlier later before rfl
  exact Nat.lt_irrefl _ before

/-- A history has one list of first occurrences. -/
theorem unique (firsts : FirstOccurrences history items)
    (alsoFirsts : FirstOccurrences history others) :
    items = others := by
  have sameMembers : items.Perm others := by
    rw [List.perm_ext_iff_of_nodup firsts.nodup alsoFirsts.nodup]
    exact fun item => (firsts.mem_iff item).trans (alsoFirsts.mem_iff item).symm
  refine sameMembers.eq_of_pairwise ?_ firsts.inOrder alsoFirsts.inOrder
  intro earlier later _ _ before behind
  exact absurd behind (Nat.lt_asymm before)

theorem nil : FirstOccurrences [] [] :=
  ⟨fun _ => Iff.rfl, .nil⟩

/-- Whatever comes later, the members of a history keep their order. -/
theorem inOrder_append (firsts : FirstOccurrences history items)
    (later : List Include) :
    items.Pairwise fun left right =>
      (history ++ later).idxOf left < (history ++ later).idxOf right := by
  refine firsts.inOrder.imp_of_mem ?_
  intro left right leftMember rightMember before
  rw [List.idxOf_append_of_mem ((firsts.mem_iff left).mp leftMember),
    List.idxOf_append_of_mem ((firsts.mem_iff right).mp rightMember)]
  exact before

/-- An include that has been inserted before adds no item. -/
theorem append_old (firsts : FirstOccurrences history items)
    {item : Include} (old : item ∈ history) :
    FirstOccurrences (history ++ [item]) items := by
  refine ⟨?_, firsts.inOrder_append [item]⟩
  intro tested
  rw [firsts.mem_iff, List.mem_append, List.mem_singleton]
  constructor
  · exact .inl
  · rintro (before | rfl)
    · exact before
    · exact old

/-- An include that has not been inserted before is the last item. -/
theorem append_new (firsts : FirstOccurrences history items)
    {item : Include} (new : item ∉ history) :
    FirstOccurrences (history ++ [item]) (items ++ [item]) := by
  refine ⟨?_, ?_⟩
  · intro tested
    rw [List.mem_append, List.mem_append, firsts.mem_iff]
  · rw [List.pairwise_append]
    refine ⟨firsts.inOrder_append [item], List.pairwise_singleton _ item, ?_⟩
    intro earlier member last isLast
    have earlierOld := (firsts.mem_iff earlier).mp member
    rw [List.mem_singleton.mp isLast, List.idxOf_append_of_mem earlierOld,
      List.idxOf_append_of_notMem new]
    exact Nat.lt_add_right _ (List.idxOf_lt_length_of_mem earlierOld)

end FirstOccurrences

section Insertion

variable {history : List Include} {includes : IncludeSet}

theorem contains_iff
    (firsts : FirstOccurrences history includes.items) (item : Include) :
    includes.contains item = true ↔ item ∈ history :=
  List.contains_iff_mem.trans (firsts.mem_iff item)

theorem insert_of_mem
    (firsts : FirstOccurrences history includes.items)
    {item : Include} (old : item ∈ history) :
    includes.insert item = includes := by
  rw [insert, dif_pos ((firsts.mem_iff item).mpr old)]

theorem insertNew_fst
    (firsts : FirstOccurrences history includes.items) (item : Include) :
    (includes.insertNew item).1 = decide (item ∉ history) := by
  rw [insertNew, Bool.eq_iff_iff, Bool.not_eq_true', decide_eq_true_iff,
    ← Bool.not_eq_true, contains_iff firsts]

theorem firstOccurrences_insert
    (firsts : FirstOccurrences history includes.items) (item : Include) :
    FirstOccurrences (history ++ [item]) (includes.insert item).items := by
  by_cases old : item ∈ history
  · rw [insert_of_mem firsts old]
    exact firsts.append_old old
  · rw [insert, dif_neg (mt (firsts.mem_iff item).mp old)]
    exact firsts.append_new old

theorem firstOccurrences_insertAll
    (firsts : FirstOccurrences history includes.items)
    (inserted : List Include) :
    FirstOccurrences (history ++ inserted)
      (includes.insertAll inserted).2.items := by
  induction inserted generalizing history includes with
  | nil =>
      rw [List.append_nil]
      exact firsts
  | cons item rest inductionHypothesis =>
      have later := inductionHypothesis (firstOccurrences_insert firsts item)
      rw [List.append_assoc] at later
      exact later

/-- An insertion answers whether the include has not come before. -/
theorem insertAll_fst
    (firsts : FirstOccurrences history includes.items)
    (inserted : List Include) :
    (includes.insertAll inserted).1 =
      inserted.mapIdx fun index item =>
        decide (item ∉ history ++ inserted.take index) := by
  induction inserted generalizing history includes with
  | nil => rfl
  | cons item rest inductionHypothesis =>
      have regroup (index : Nat) :
          history ++ (item :: rest).take (index + 1) =
            history ++ [item] ++ rest.take index := by
        rw [List.take_succ_cons, List.append_assoc, List.singleton_append]
      have later := inductionHypothesis (firstOccurrences_insert firsts item)
      rw [insertAll, List.mapIdx_cons, List.take_zero, List.append_nil,
        insertNew_fst firsts]
      simp only [regroup]
      exact congrArg _ later

end Insertion

theorem insertAll_snd (includes : IncludeSet) (inserted : List Include) :
    (includes.insertAll inserted).2 = inserted.foldl insert includes := by
  induction inserted generalizing includes with
  | nil => rfl
  | cons item rest inductionHypothesis =>
      exact inductionHypothesis (includes.insert item)

theorem firstOccurrences_ofList (initial : List Include) :
    FirstOccurrences initial (ofList initial).items := by
  have fromEmpty : FirstOccurrences [] empty.items := .nil
  rw [ofList, ← insertAll_snd]
  exact firstOccurrences_insertAll fromEmpty initial

private theorem foldl_directives (items : List Include) (written : String) :
    items.foldl (fun text item => text ++ item.directive ++ "\n") written =
      written ++
        String.join (items.map fun item => item.directive ++ "\n") := by
  induction items generalizing written with
  | nil => exact String.append_empty.symm
  | cons item rest inductionHypothesis =>
      rw [List.foldl_cons, inductionHypothesis, List.map_cons,
        String.join_cons, String.append_assoc, String.append_assoc,
        String.append_assoc]

theorem render_eq_join (includes : IncludeSet) :
    includes.render =
      String.join (includes.items.map fun item => item.directive ++ "\n") := by
  rw [render, foldl_directives, String.empty_append]

/-- All that a set shows of the insertions that have made it. -/
structure Shows (history : List Include) (includes : IncludeSet) :
    Prop where
  items_eq_iff : ∀ items : List Include,
    includes.items = items ↔ FirstOccurrences history items
  contains_iff : ∀ item, includes.contains item = true ↔ item ∈ history
  insertNew_iff : ∀ item,
    (includes.insertNew item).1 = true ↔ item ∉ history
  unchanged : ∀ item ∈ history, (includes.insertNew item).2 = includes
  size_eq : includes.size = history.toFinset.card
  isEmpty_iff : includes.isEmpty = true ↔ history = []
  render_eq :
    includes.render =
      String.join (includes.items.map fun item => item.directive ++ "\n")

theorem shows_of_firstOccurrences
    {history : List Include} {includes : IncludeSet}
    (firsts : FirstOccurrences history includes.items) :
    Shows history includes where
  items_eq_iff items := by
    constructor
    · rintro rfl
      exact firsts
    · exact firsts.unique
  contains_iff := contains_iff firsts
  insertNew_iff item := by
    rw [insertNew_fst firsts, decide_eq_true_iff]
  unchanged item old := insert_of_mem firsts old
  size_eq := by
    have sameMembers : history.toFinset = includes.items.toFinset := by
      ext item
      rw [List.mem_toFinset, List.mem_toFinset, firsts.mem_iff]
    rw [sameMembers, List.toFinset_card_of_nodup includes.nodup]
    rfl
  isEmpty_iff := by
    rw [isEmpty, List.isEmpty_iff, List.eq_nil_iff_forall_not_mem,
      List.eq_nil_iff_forall_not_mem]
    exact forall_congr' fun item => not_congr (firsts.mem_iff item)
  render_eq := render_eq_join includes

/-- A set that is made from a list and by insertions shows the first
occurrences in the list and in the insertions behind it.  Each insertion
answers whether its include has not come before.  Making a set from a list is
inserting its members one after another into the empty set, and from the empty
list it is the empty set. -/
theorem insertions_keep_first_occurrences (initial inserted : List Include) :
    Shows (initial ++ inserted) ((ofList initial).insertAll inserted).2 ∧
      ((ofList initial).insertAll inserted).1 =
        inserted.mapIdx (fun index item =>
          decide (item ∉ initial ++ inserted.take index)) ∧
      ofList initial = (empty.insertAll initial).2 := by
  have firsts := firstOccurrences_ofList initial
  refine ⟨?_, insertAll_fst firsts inserted,
    (insertAll_snd empty initial).symm⟩
  exact shows_of_firstOccurrences (firstOccurrences_insertAll firsts inserted)

/-- One file with both delimiters. -/
example :
    let set :=
      (ofList [⟨"b.h", .quoted⟩, ⟨"a.h", .angled⟩, ⟨"b.h", .quoted⟩]).insertAll
        [⟨"a.h", .angled⟩, ⟨"a.h", .quoted⟩]
    set.1 = [false, true] ∧
      set.2.render =
        "#include \"b.h\"\n#include <a.h>\n#include \"a.h\"\n" := by
  decide

end ManagedBinding.IncludeSet
