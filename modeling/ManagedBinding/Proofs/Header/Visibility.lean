import ManagedBinding.Proofs.Header.Eligibility
import ManagedBinding.Proofs.Header.HookedRun

/-!
# Hidden members

A member is hidden if it is ignored or not public.  Methods and fields that are
hidden leave no trace in a header, and neither do ignored events.  Events have
no rule on their access, though: an event that is not ignored is declared even
if it is protected or private, below the same `public:` as all other members.

The comparison is by size.  A header is as long as the one without the hidden
members together with the items of the events that have been dropped, and every
item has at least its line feed.
-/

namespace ManagedBinding

/-- The declaration is ignored or not public. -/
def Declaration.isHidden (declaration : Declaration) : Bool :=
  declaration.ignored || !declaration.access.isPublic

/-- A class without its hidden methods and fields, and without the events that
are to be dropped. -/
def Class.withoutHidden (drops : Event → Bool) (owner : Class) : Class :=
  { owner with
    methods := owner.methods.filter fun method =>
      !method.declaration.isHidden
    fields := owner.fields.filter fun field => !field.declaration.isHidden
    events := owner.events.filter fun event => !drops event }

/-- A unit whose classes are without their hidden methods and fields, and
without the events that are to be dropped. -/
def CompilationUnit.withoutHidden
    (drops : Event → Bool) (unit : CompilationUnit) : CompilationUnit :=
  { unit with classes := unit.classes.map (Class.withoutHidden drops) }

theorem Declaration.isHidden_iff (declaration : Declaration) :
    declaration.isHidden = true ↔
      declaration.ignored = true ∨
        declaration.access ≠ .publicAccess := by
  simp [isHidden, Access.isPublic]

/-- What is dropped without being wanted is not missed. -/
private theorem filter_unless_filter_unless
    {β : Type} {hidden excluded : β → Bool}
    (implied : ∀ member, hidden member = true → excluded member = true)
    (members : List β) :
    (members.filter fun member => !hidden member).filter
        (fun member => !excluded member) =
      members.filter fun member => !excluded member := by
  rw [List.filter_filter]
  refine List.filter_congr ?_
  intro member _
  cases isHidden : hidden member with
  | true => simp [implied member isHidden]
  | false => simp

section Members

variable (drops : Event → Bool) (owner : Class)

theorem Class.eligibleMethods_withoutHidden :
    (owner.withoutHidden drops).eligibleMethods = owner.eligibleMethods := by
  refine filter_unless_filter_unless ?_ owner.methods
  intro method hidden
  rcases method.declaration.isHidden_iff.mp hidden with
    ignored | notPublic
  · exact (method.isExcluded_iff owner).mpr (.inl ignored)
  · rw [Method.isExcluded_iff]
    tauto

theorem Class.eligibleFields_withoutHidden :
    (owner.withoutHidden drops).eligibleFields = owner.eligibleFields := by
  refine filter_unless_filter_unless ?_ owner.fields
  intro field hidden
  exact field.isExcluded_iff.mpr (field.declaration.isHidden_iff.mp hidden)

theorem Header.emittedEvents_withoutHidden :
    emittedEvents (owner.withoutHidden drops) =
      (emittedEvents owner).filter fun event => !drops event :=
  List.filter_comm _ _ _

end Members

namespace Listing

/-- The number of characters in the text of a listing. -/
def size (items : List Item) : Nat := (text items).length

theorem size_append (upper lower : List Item) :
    size (upper ++ lower) = size upper + size lower := by
  rw [size, text_append, String.length_append]
  rfl

/-- Every item has at least its line feed. -/
theorem size_eq_zero_iff (items : List Item) :
    size items = 0 ↔ items = [] := by
  cases items with
  | nil => exact ⟨fun _ => rfl, fun _ => rfl⟩
  | cons item rest =>
      have someLine : item.lines ≠ [] := by
        rw [Item.lines, ne_eq, List.map_eq_nil_iff]
        exact List.splitOn_ne_nil '\n' item.text.toList
      obtain ⟨line, others, lines⟩ := List.exists_cons_of_ne_nil someLine
      rw [size, text, List.flatMap_cons, lines, List.cons_append,
        Text.endLines_cons, String.length_ofList, List.length_append,
        List.length_cons]
      simp

variable {β : Type}

theorem size_flatMap_filter
    (drops : β → Bool) (items : β → List Item) (members : List β) :
    size (members.flatMap items) =
      size ((members.filter fun member => !drops member).flatMap items) +
        size ((members.filter drops).flatMap items) := by
  induction members with
  | nil => rfl
  | cons member rest inductionHypothesis =>
      rw [List.flatMap_cons, size_append, inductionHypothesis]
      cases dropped : drops member with
      | true => simp [dropped, size_append]; omega
      | false => simp [dropped, size_append]; omega

theorem size_flatMap_add
    {items kept dropped : β → List Item}
    (each : ∀ member,
      size (items member) = size (kept member) + size (dropped member))
    (members : List β) :
    size (members.flatMap items) =
      size (members.flatMap kept) + size (members.flatMap dropped) := by
  induction members with
  | nil => rfl
  | cons member rest inductionHypothesis =>
      simp only [List.flatMap_cons, size_append]
      rw [each member, inductionHypothesis]
      omega

end Listing

namespace Header

open Listing (Item size)

/-! ## What the dropped members have written -/

section Classes

variable (printer : TypePrinter) (drops : Event → Bool)

/-- The items of the events that are declared unless they are dropped. -/
def droppedItems (depth : Nat) (owner : Class) : List Item :=
  ((emittedEvents owner).filter drops).flatMap (eventItems printer depth)

theorem memberItems_withoutHidden (depth : Nat) (owner : Class) :
    memberItems printer depth (owner.withoutHidden drops) =
      owner.eligibleMethods.flatMap (methodItems printer owner depth) ++
        owner.eligibleFields.flatMap (fieldItems printer depth) ++
        ((emittedEvents owner).filter fun event => !drops event).flatMap
          (eventItems printer depth) := by
  rw [← emittedEvents_withoutHidden,
    ← Class.eligibleMethods_withoutHidden drops,
    ← Class.eligibleFields_withoutHidden drops, memberItems_eq]
  rfl

theorem size_memberItems (depth : Nat) (owner : Class) :
    size (memberItems printer depth owner) =
      size (memberItems printer depth (owner.withoutHidden drops)) +
        size (droppedItems printer drops depth owner) := by
  have events :=
    Listing.size_flatMap_filter drops (eventItems printer depth)
      (emittedEvents owner)
  rw [memberItems_withoutHidden, memberItems_eq, droppedItems]
  simp only [Listing.size_append, events, Nat.add_assoc]

theorem size_classItems (depth : Nat) (owner : Class) :
    size (classItems printer depth owner) =
      size (classItems printer depth (owner.withoutHidden drops)) +
        size (droppedItems printer drops (depth + 1) owner) := by
  have members := size_memberItems printer drops (depth + 1) owner
  have opening :
      classOpening depth (owner.withoutHidden drops) =
        classOpening depth owner := rfl
  rw [classItems, classItems, opening]
  simp only [Listing.size_append]
  omega

theorem classItems_withoutHidden
    (depth : Nat) {owner : Class}
    (kept : ∀ event ∈ emittedEvents owner, drops event = false) :
    classItems printer depth (owner.withoutHidden drops) =
      classItems printer depth owner := by
  have allKept :
      ((emittedEvents owner).filter fun event => !drops event) =
        emittedEvents owner := by
    rw [List.filter_eq_self]
    intro event member
    rw [kept event member]
    rfl
  have members := memberItems_withoutHidden printer drops (depth + 1) owner
  rw [allKept] at members
  rw [classItems, members, classItems_eq]
  rfl

variable (unit : CompilationUnit) (options : Options)

theorem emittedClasses_withoutHidden :
    emittedClasses (unit.withoutHidden drops) =
      (emittedClasses unit).map (Class.withoutHidden drops) := by
  rw [emittedClasses, CompilationUnit.withoutHidden, List.filter_map]
  rfl

theorem headerItems_withoutHidden :
    headerItems (unit.withoutHidden drops) options printer =
      topItems unit ++
        namespaceItems options
          ((emittedClasses unit).flatMap fun owner =>
            classItems printer (classDepth options)
              (owner.withoutHidden drops)) := by
  have classes := emittedClasses_withoutHidden drops unit
  rw [emittedClasses] at classes
  rw [headerItems, classes, List.flatMap_map]
  rfl

/-- A header is as long as the one without the hidden members together with
the declarations of the events that are dropped. -/
theorem size_headerItems :
    size (headerItems unit options printer) =
      size (headerItems (unit.withoutHidden drops) options printer) +
        size ((emittedClasses unit).flatMap
          (droppedItems printer drops (classDepth options + 1))) := by
  have classes :=
    Listing.size_flatMap_add
      (size_classItems printer drops (classDepth options))
      (emittedClasses unit)
  rw [headerItems_withoutHidden, headerItems, namespaceItems_eq,
    namespaceItems_eq]
  rw [emittedClasses] at classes ⊢
  simp only [Listing.size_append]
  omega

/-- Nothing but the events of a header misses what is dropped. -/
theorem text_withoutHidden_iff :
    Listing.text (headerItems (unit.withoutHidden drops) options printer) =
        Listing.text (headerItems unit options printer) ↔
      ∀ owner ∈ emittedClasses unit, ∀ event ∈ emittedEvents owner,
        drops event = false := by
  constructor
  · intro sameText
    have sameSize := congrArg String.length sameText
    have total := size_headerItems printer drops unit options
    have nothing :
        size ((emittedClasses unit).flatMap
          (droppedItems printer drops (classDepth options + 1))) = 0 := by
      simp only [size] at total ⊢
      omega
    rw [Listing.size_eq_zero_iff, List.flatMap_eq_nil_iff] at nothing
    intro owner ownerMember event eventMember
    have noneDropped := nothing owner ownerMember
    rw [droppedItems, List.flatMap_eq_nil_iff] at noneDropped
    by_contra isDropped
    rw [Bool.not_eq_false] at isDropped
    have noItems :=
      noneDropped event (List.mem_filter.mpr ⟨eventMember, isDropped⟩)
    simp [eventItems] at noItems
  · intro kept
    have sameClasses :
        ((emittedClasses unit).flatMap fun owner =>
            classItems printer (classDepth options)
              (owner.withoutHidden drops)) =
          (emittedClasses unit).flatMap
            (classItems printer (classDepth options)) := by
      refine List.flatMap_congr ?_
      intro owner member
      exact classItems_withoutHidden printer drops _ (kept owner member)
    rw [headerItems_withoutHidden, sameClasses]
    rfl

end Classes

/-- Without a hook, dropping the hidden methods, the hidden fields and the
ignored events of all classes leaves the body of the header as it is.  Dropping
all hidden events as well does so exactly if the classes that are not ignored
have no protected or private events but ignored ones. -/
theorem body_without_hidden_members
    {η : Type} [Hook η] (unit : CompilationUnit) (options : Options)
    (printer : TypePrinter) (hooks : HookTable η)
    (unhooked : hooks.get? unit.fileName = none) :
    let body := fun rendered : CompilationUnit =>
      (renderUnit layout rendered options printer hooks).1.body
    body (unit.withoutHidden fun event => event.declaration.ignored) =
        body unit ∧
      (body (unit.withoutHidden fun event => event.declaration.isHidden) =
          body unit ↔
        ∀ owner ∈ unit.classes, owner.declaration.ignored = false →
          ∀ event ∈ owner.events, event.declaration.ignored = false →
            event.declaration.access = .publicAccess) := by
  intro body
  have bodyOf (drops : Event → Bool) :
      body (unit.withoutHidden drops) = body unit ↔
        ∀ owner ∈ emittedClasses unit, ∀ event ∈ emittedEvents owner,
          drops event = false := by
    have whole := renderUnit_unhooked unit options printer hooks unhooked
    have pruned :=
      renderUnit_unhooked (unit.withoutHidden drops) options printer hooks
        unhooked
    change
      (renderUnit layout (unit.withoutHidden drops) options printer
          hooks).1.body =
        (renderUnit layout unit options printer hooks).1.body ↔ _
    rw [whole, pruned]
    exact text_withoutHidden_iff printer drops unit options
  rw [bodyOf, bodyOf]
  simp only [emittedClasses, emittedEvents, List.mem_filter,
    Bool.not_eq_true', and_imp]
  refine ⟨fun _ _ _ _ _ notIgnored => notIgnored, ?_⟩
  have shown_iff (event : Event)
      (notIgnored : event.declaration.ignored = false) :
      event.declaration.isHidden = false ↔
        event.declaration.access = .publicAccess := by
    simp [Declaration.isHidden, Access.isPublic, notIgnored]
  constructor
  · intro shown owner ownerMember kept event eventMember notIgnored
    exact (shown_iff event notIgnored).mp
      (shown owner ownerMember kept event eventMember notIgnored)
  · intro allPublic owner ownerMember kept event eventMember notIgnored
    exact (shown_iff event notIgnored).mpr
      (allPublic owner ownerMember kept event eventMember notIgnored)

/-- The sample unit has hidden methods and fields, and only public events. -/
theorem body_of_geometry_without_hidden_members :
    let body := fun rendered : CompilationUnit =>
      (renderUnit layout rendered .standard .native otherUnitHooks).1.body
    otherUnitHooks.get? Geometry.unit.fileName = none ∧
      Geometry.unit.withoutHidden (fun event => event.declaration.isHidden) ≠
        Geometry.unit ∧
      body (Geometry.unit.withoutHidden fun event =>
          event.declaration.isHidden) =
        body Geometry.unit :=
  ⟨rfl, by decide,
    (body_without_hidden_members Geometry.unit .standard .native
      otherUnitHooks rfl).2.mpr (by decide)⟩

/-- A class with one event, which is private. -/
def privateEventUnit : CompilationUnit :=
  (CompilationUnit.ofFile "a.h").withClass <|
    (Class.named "C").withEvent
      { Event.named "E" [] with
        declaration := (Declaration.named "E").withAccess .privateAccess }

/-- The private event is declared for everyone. -/
theorem private_event_is_declared :
    let body := fun rendered : CompilationUnit =>
      (renderUnit layout rendered .standard .native otherUnitHooks).1.body
    otherUnitHooks.get? privateEventUnit.fileName = none ∧
      body (privateEventUnit.withoutHidden fun event =>
          event.declaration.isHidden) ≠
        body privateEventUnit := by
  intro body
  refine ⟨rfl, ?_⟩
  have bodyOf (unit : CompilationUnit)
      (unhooked : otherUnitHooks.get? unit.fileName = none) :
      body unit = Listing.text (headerItems unit .standard .native) := by
    change (renderUnit layout unit .standard .native otherUnitHooks).1.body = _
    rw [renderUnit_unhooked unit .standard .native otherUnitHooks unhooked]
  rw [bodyOf _ rfl, bodyOf _ rfl]
  intro sameText
  have noneHidden :=
    (text_withoutHidden_iff .native _ privateEventUnit .standard).mp sameText
  revert noneHidden
  decide

end Header

end ManagedBinding
