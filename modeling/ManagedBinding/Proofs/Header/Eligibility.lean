import ManagedBinding.Model.Geometry
import ManagedBinding.Proofs.Header.Refinement
import Mathlib.Data.List.Basic

/-!
# Eligibility governs the header

The header of a unit depends on its members through their eligibility alone.
Erasing whatever is left out changes no character of the body; the members
that are declared are the eligible ones, in their order; and the log names
every member that is left out, with the first rule that speaks against it.
-/

namespace ManagedBinding

/-- A class with its eligible members only. -/
def Class.withoutExcluded (owner : Class) : Class :=
  { owner with
    methods := owner.eligibleMethods
    fields := owner.eligibleFields
    events := owner.events.filter fun event => !event.declaration.ignored }

/-- A unit with the classes that are not dropped and with their eligible
members only. -/
def CompilationUnit.withoutExcluded (unit : CompilationUnit) :
    CompilationUnit :=
  { unit with
    classes :=
      (unit.classes.filter fun owner => !owner.declaration.ignored).map
        Class.withoutExcluded }

theorem Class.eligibleMethods_withoutExcluded (owner : Class) :
    owner.withoutExcluded.eligibleMethods = owner.eligibleMethods := by
  change
    (owner.methods.filter _).filter
      (fun method => !method.isExcluded owner) = _
  rw [List.filter_filter]
  simp only [Bool.and_self]
  rfl

theorem Class.eligibleFields_withoutExcluded (owner : Class) :
    owner.withoutExcluded.eligibleFields = owner.eligibleFields := by
  change
    (owner.fields.filter _).filter (fun field => !field.isExcluded) = _
  rw [List.filter_filter]
  simp only [Bool.and_self]
  rfl

namespace Header

open Listing (Item)

theorem memberItems_withoutExcluded
    (printer : TypePrinter) (depth : Nat) (owner : Class) :
    memberItems printer depth owner.withoutExcluded =
      memberItems printer depth owner := by
  have sameEvents :
      emittedEvents owner.withoutExcluded = emittedEvents owner := by
    simp [emittedEvents, Class.withoutExcluded, List.filter_filter]
  rw [memberItems_eq, memberItems_eq, Class.eligibleMethods_withoutExcluded,
    Class.eligibleFields_withoutExcluded, sameEvents]
  rfl

theorem classItems_withoutExcluded
    (printer : TypePrinter) (depth : Nat) (owner : Class) :
    classItems printer depth owner.withoutExcluded =
      classItems printer depth owner := by
  rw [classItems, classItems, memberItems_withoutExcluded]
  rfl

theorem headerItems_withoutExcluded
    (unit : CompilationUnit) (options : Options) (printer : TypePrinter) :
    headerItems unit.withoutExcluded options printer =
      headerItems unit options printer := by
  have sameClasses :
      unit.withoutExcluded.classes.filter
          (fun owner => !owner.declaration.ignored) =
        unit.withoutExcluded.classes := by
    rw [List.filter_eq_self]
    intro owner member
    obtain ⟨original, kept, rfl⟩ := List.mem_map.mp member
    exact (List.mem_filter.mp kept).2
  have sameItems :
      unit.withoutExcluded.classes.flatMap
          (classItems printer (classDepth options)) =
        (unit.classes.filter
            fun owner => !owner.declaration.ignored).flatMap
          (classItems printer (classDepth options)) := by
    simp only [CompilationUnit.withoutExcluded, List.flatMap_map,
      classItems_withoutExcluded]
  simp only [headerItems]
  rw [sameClasses, sameItems]
  rfl

/-- What the log says about the members of a class: one entry for every method
that is left out, then one for every field. -/
def skippedMembers (owner : Class) : List LogEvent :=
  (owner.methods.filterMap fun method =>
      (firstReason (method.exclusionRules owner)).map
        (.skippingMethod owner.declaration.qualifiedName method.name)) ++
    owner.fields.filterMap fun field =>
      (firstReason field.exclusionRules).map
        (.skippingField owner.declaration.qualifiedName field.name)

theorem classEvents_eq_skippedMembers (owner : Class) :
    classEvents owner = skippedMembers owner := by
  have methodReason (method : Method) :=
    Method.exclusion?_eq_firstReason owner method
  rw [skippedMembers, List.filterMap_eq_flatMap_toList,
    List.filterMap_eq_flatMap_toList]
  simp only [← methodReason, ← Field.exclusion?_eq_firstReason]
  rfl

/-- Without a hook, erasing all that is left out changes neither the body nor
the includes.  Inside each class that is not dropped, the declared methods are
the eligible ones and the declared fields are the eligible ones, each of them
once and in order.  The log holds one entry for the unit and then the members
that are left out, class by class, with the first rule against each; what
leaves a member out is said by its flags, its kind and its access alone. -/
theorem eligibility_governs_header
    {η : Type} [Hook η] (unit : CompilationUnit) (options : Options)
    (printer : TypePrinter) (hooks : HookTable η)
    (unhooked : hooks.get? unit.fileName = none) :
    let rendered := renderUnit layout unit options printer hooks
    let erased :=
      renderUnit layout unit.withoutExcluded options printer hooks
    let kept :=
      unit.classes.filter fun owner => !owner.declaration.ignored
    let depth := classDepth options
    (erased.1.body = rendered.1.body ∧
        erased.1.includes = rendered.1.includes) ∧
      rendered.1.body =
        Listing.text
          (topItems unit ++
            namespaceItems options
              (kept.flatMap fun owner =>
                classOpening depth owner ++
                  (owner.eligibleMethods.flatMap
                      (methodItems printer owner (depth + 1)) ++
                    owner.eligibleFields.flatMap
                      (fieldItems printer (depth + 1)) ++
                    (owner.events.filter
                        fun event => !event.declaration.ignored).flatMap
                      (eventItems printer (depth + 1))) ++
                  [⟨depth, "\x7d;"⟩])) ∧
      rendered.2 =
        .renderingUnit unit.fileName "h" false ::
          kept.flatMap skippedMembers ∧
      (∀ (owner : Class) (method : Method),
        method.isExcluded owner = true ↔
          method.declaration.ignored = true ∨
            (owner.isValueType = true ∧ method.isConstructor = true ∧
              method.parameters = []) ∨
            (method.kind = .copyConstructor ∨
              method.kind = .moveConstructor) ∨
            method.kind = .destructor ∨
            method.operator = some .equalEqual ∨
            method.kind = .conversion ∨
            method.declaration.access ≠ .publicAccess) ∧
      ∀ field : Field,
        field.isExcluded = true ↔
          field.declaration.ignored = true ∨
            field.declaration.access ≠ .publicAccess := by
  intro rendered erased kept depth
  have renderedEq :=
    renderUnit_unhooked unit options printer hooks unhooked
  have erasedEq :=
    renderUnit_unhooked unit.withoutExcluded options printer hooks unhooked
  have sameEvents : classEvents = skippedMembers :=
    funext classEvents_eq_skippedMembers
  refine ⟨⟨?_, ?_⟩, ?_, ?_, Method.isExcluded_iff, Field.isExcluded_iff⟩
  · change (renderUnit layout unit.withoutExcluded options printer
      hooks).1.body = (renderUnit layout unit options printer hooks).1.body
    rw [renderedEq, erasedEq, headerItems_withoutExcluded]
  · change (renderUnit layout unit.withoutExcluded options printer
      hooks).1.includes =
        (renderUnit layout unit options printer hooks).1.includes
    rw [renderedEq, erasedEq]
    rfl
  · change (renderUnit layout unit options printer hooks).1.body = _
    rw [renderedEq]
    rw [headerItems, funext (classItems_eq printer (classDepth options))]
    rfl
  · change (renderUnit layout unit options printer hooks).2 = _
    rw [renderedEq, sameEvents]
    rfl

theorem eligibility_governs_geometry_header :
    let rendered :=
      renderUnit layout Geometry.unit .standard .native otherUnitHooks
    let erased :=
      renderUnit layout Geometry.unit.withoutExcluded .standard .native
        otherUnitHooks
    otherUnitHooks.get? Geometry.unit.fileName = none ∧
      (erased.1.body = rendered.1.body ∧
        erased.1.includes = rendered.1.includes) ∧
      rendered.2 =
        [.renderingUnit "geometry.h" "h" false,
          .skippingMethod "gfx::Point" "Point" .implicitDefaultConstructor,
          .skippingMethod "gfx::Point" "Point" .copyOrMoveConstructor,
          .skippingMethod "gfx::Point" "operator==" .equalityOperator,
          .skippingField "gfx::Point" "cached_length" .notPublic,
          .skippingMethod "gfx::Canvas" "~Canvas" .destructor,
          .skippingMethod "gfx::Canvas" "operator bool" .conversionOperator,
          .skippingMethod "gfx::Canvas" "Flush" .notPublic,
          .skippingMethod "gfx::Canvas" "Debug" .ignored,
          .skippingField "gfx::Canvas" "handle" .ignored] := by
  have governed :=
    eligibility_governs_header Geometry.unit .standard .native
      otherUnitHooks rfl
  refine ⟨rfl, governed.1, ?_⟩
  calc
    (renderUnit layout Geometry.unit .standard .native otherUnitHooks).2 =
        _ := governed.2.2.1
    _ = _ := by decide

end Header

end ManagedBinding
