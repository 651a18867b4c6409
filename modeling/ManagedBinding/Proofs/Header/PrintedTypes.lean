import ManagedBinding.Proofs.Header.ConstructorParameters
import Mathlib.Data.List.Forall2

/-!
# Types reach the output through the printer

A header never looks into a type.  Which members it declares, which parameters
it leaves out and how it names those of a handler follows from the unit without
its types; all else is the text that the printer gives for a type or a
parameter that is shown.

So two units that are the same up to their types have the same header if the
printer gives the same texts for what is shown of them.  The return types of
constructors, the receivers that are left out and the types of excluded members
are not shown: nothing is asked of them, and erasing them leaves the header as
it is.
-/

namespace ManagedBinding

def Parameter.withoutType (parameter : Parameter) : Parameter :=
  { parameter with type := .void }

def Method.withoutTypes (method : Method) : Method :=
  { method with
    returnType := .void
    parameters := method.parameters.map Parameter.withoutType }

def Field.withoutType (field : Field) : Field :=
  { field with type := .void }

/-- An event without its parameters, which are nothing but types. -/
def Event.withoutTypes (event : Event) : Event :=
  { event with parameterTypes := [] }

def Class.withoutTypes (owner : Class) : Class :=
  { owner with
    methods := owner.methods.map Method.withoutTypes
    fields := owner.fields.map Field.withoutType
    events := owner.events.map Event.withoutTypes }

def CompilationUnit.withoutTypes (unit : CompilationUnit) :
    CompilationUnit :=
  { unit with classes := unit.classes.map Class.withoutTypes }

theorem Method.exclusion?_withoutTypes (owner : Class) (method : Method) :
    method.withoutTypes.exclusion? owner.withoutTypes =
      method.exclusion? owner := by
  have sameParameters :
      method.withoutTypes.parameters.isEmpty = method.parameters.isEmpty :=
    List.isEmpty_map
  rw [exclusion?, exclusion?, sameParameters]
  rfl

theorem Method.isExcluded_withoutTypes (owner : Class) (method : Method) :
    method.withoutTypes.isExcluded owner.withoutTypes =
      method.isExcluded owner := by
  rw [isExcluded, exclusion?_withoutTypes]
  rfl

theorem Class.eligibleMethods_withoutTypes (owner : Class) :
    owner.withoutTypes.eligibleMethods =
      owner.eligibleMethods.map Method.withoutTypes := by
  rw [eligibleMethods, eligibleMethods]
  change (owner.methods.map Method.withoutTypes).filter _ = _
  rw [List.filter_map]
  simp only [Function.comp_def, Method.isExcluded_withoutTypes]

theorem Class.eligibleFields_withoutTypes (owner : Class) :
    owner.withoutTypes.eligibleFields =
      owner.eligibleFields.map Field.withoutType := by
  rw [eligibleFields, withoutTypes, List.filter_map]
  rfl

theorem Method.declaredParameters_withoutTypes (method : Method) :
    method.withoutTypes.declaredParameters =
      method.declaredParameters.map Parameter.withoutType := by
  rw [declaredParameters, declaredParameters]
  change (if method.conversion = .toInstanceMethod then _ else _) = _
  split
  · exact List.map_tail.symm
  · rfl

/-- The number of its parameters determines all of an event's handlers but
their types. -/
theorem Event.handlerParameters_withoutType (event : Event) :
    event.handlerParameters.map Parameter.withoutType =
      (List.range event.handlerParameters.length).map fun index =>
        ⟨"_" ++ toString index, .void⟩ := by
  apply List.ext_getElem
  · simp
  · intro index _ _
    simp [handlerParameters, Parameter.withoutType]

theorem Header.emittedEvents_withoutTypes (owner : Class) :
    emittedEvents owner.withoutTypes =
      (emittedEvents owner).map Event.withoutTypes := by
  rw [emittedEvents, Class.withoutTypes, List.filter_map]
  rfl

theorem Header.emittedClasses_withoutTypes (unit : CompilationUnit) :
    emittedClasses unit.withoutTypes =
      (emittedClasses unit).map Class.withoutTypes := by
  rw [emittedClasses, CompilationUnit.withoutTypes, List.filter_map]
  rfl

/-- A method without the types that a header does not show: all of them if it
is left out, and else the return type of a constructor and the type of a
receiver. -/
def Method.withoutUnseenTypes (owner : Class) (method : Method) : Method :=
  if method.isExcluded owner then
    method.withoutTypes
  else
    { method with
      returnType :=
        if method.isConstructor then .void else method.returnType
      parameters :=
        if method.conversion = .toInstanceMethod then
          method.parameters.modifyHead Parameter.withoutType
        else
          method.parameters }

def Field.withoutUnseenType (field : Field) : Field :=
  if field.isExcluded then field.withoutType else field

def Event.withoutUnseenTypes (event : Event) : Event :=
  if event.declaration.ignored then event.withoutTypes else event

def Class.withoutUnseenTypes (owner : Class) : Class :=
  if owner.declaration.ignored then
    owner.withoutTypes
  else
    { owner with
      methods := owner.methods.map (Method.withoutUnseenTypes owner)
      fields := owner.fields.map Field.withoutUnseenType
      events := owner.events.map Event.withoutUnseenTypes }

def CompilationUnit.withoutUnseenTypes (unit : CompilationUnit) :
    CompilationUnit :=
  { unit with classes := unit.classes.map Class.withoutUnseenTypes }

theorem Method.withoutTypes_withoutTypes (method : Method) :
    method.withoutTypes.withoutTypes = method.withoutTypes := by
  simp [withoutTypes, Function.comp_def, Parameter.withoutType]

theorem Class.withoutTypes_withoutTypes (owner : Class) :
    owner.withoutTypes.withoutTypes = owner.withoutTypes := by
  simp only [withoutTypes, List.map_map, Function.comp_def,
    Method.withoutTypes_withoutTypes]
  rfl

theorem Method.withoutTypes_withoutUnseenTypes
    (owner : Class) (method : Method) :
    (method.withoutUnseenTypes owner).withoutTypes =
      method.withoutTypes := by
  rw [withoutUnseenTypes]
  split
  · exact method.withoutTypes_withoutTypes
  · have sameParameters :
        (method.parameters.modifyHead Parameter.withoutType).map
            Parameter.withoutType =
          method.parameters.map Parameter.withoutType := by
      cases method.parameters with
      | nil => rfl
      | cons receiver others => rfl
    simp only [withoutTypes]
    split
    · rw [sameParameters]
    · rfl

theorem Field.withoutType_withoutUnseenType (field : Field) :
    field.withoutUnseenType.withoutType = field.withoutType := by
  rw [withoutUnseenType]
  split <;> rfl

theorem Event.withoutTypes_withoutUnseenTypes (event : Event) :
    event.withoutUnseenTypes.withoutTypes = event.withoutTypes := by
  rw [withoutUnseenTypes]
  split <;> rfl

theorem Class.withoutTypes_withoutUnseenTypes (owner : Class) :
    owner.withoutUnseenTypes.withoutTypes = owner.withoutTypes := by
  rw [withoutUnseenTypes]
  split
  · exact owner.withoutTypes_withoutTypes
  · simp only [withoutTypes, List.map_map, Function.comp_def,
      Method.withoutTypes_withoutUnseenTypes,
      Field.withoutType_withoutUnseenType,
      Event.withoutTypes_withoutUnseenTypes]

theorem CompilationUnit.withoutTypes_withoutUnseenTypes
    (unit : CompilationUnit) :
    unit.withoutUnseenTypes.withoutTypes = unit.withoutTypes := by
  simp only [withoutTypes, withoutUnseenTypes, List.map_map,
    Function.comp_def, Class.withoutTypes_withoutUnseenTypes]

section Kept

variable {owner : Class} (kept : ¬ owner.declaration.ignored = true)

include kept

theorem Class.eligibleMethods_withoutUnseenTypes :
    owner.withoutUnseenTypes.eligibleMethods =
      owner.eligibleMethods.map (Method.withoutUnseenTypes owner) := by
  have sameVerdict (method : Method) :
      (method.withoutUnseenTypes owner).isExcluded
          owner.withoutUnseenTypes =
        method.isExcluded owner := by
    rw [← Method.isExcluded_withoutTypes,
      Method.withoutTypes_withoutUnseenTypes,
      withoutTypes_withoutUnseenTypes, Method.isExcluded_withoutTypes]
  have methods :
      owner.withoutUnseenTypes.methods =
        owner.methods.map (Method.withoutUnseenTypes owner) := by
    rw [withoutUnseenTypes, if_neg kept]
  rw [eligibleMethods, eligibleMethods, methods, List.filter_map]
  simp only [Function.comp_def, sameVerdict]

theorem Class.eligibleFields_withoutUnseenTypes :
    owner.withoutUnseenTypes.eligibleFields =
      owner.eligibleFields.map Field.withoutUnseenType := by
  have sameVerdict (field : Field) :
      field.withoutUnseenType.isExcluded = field.isExcluded := by
    cases out : field.isExcluded with
    | true => rw [Field.withoutUnseenType, if_pos out]; exact out
    | false => rw [Field.withoutUnseenType, out]; exact out
  rw [eligibleFields, eligibleFields, withoutUnseenTypes, if_neg kept,
    List.filter_map]
  simp only [Function.comp_def, sameVerdict]

theorem Header.emittedEvents_withoutUnseenTypes :
    emittedEvents owner.withoutUnseenTypes =
      (emittedEvents owner).map Event.withoutUnseenTypes := by
  have sameDeclaration (event : Event) :
      event.withoutUnseenTypes.declaration = event.declaration := by
    rw [Event.withoutUnseenTypes]
    split <;> rfl
  rw [emittedEvents, emittedEvents, Class.withoutUnseenTypes, if_neg kept,
    List.filter_map]
  simp only [Function.comp_def, sameDeclaration]

end Kept

theorem Header.emittedClasses_withoutUnseenTypes (unit : CompilationUnit) :
    emittedClasses unit.withoutUnseenTypes =
      (emittedClasses unit).map Class.withoutUnseenTypes := by
  have sameDeclaration (owner : Class) :
      owner.withoutUnseenTypes.declaration = owner.declaration := by
    rw [Class.withoutUnseenTypes]
    split <;> rfl
  rw [emittedClasses, emittedClasses, CompilationUnit.withoutUnseenTypes,
    List.filter_map]
  simp only [Function.comp_def, sameDeclaration]

/-! ## Texts of what is shown -/

section Shown

variable
  (typeText : QualifiedType → String) (parameterText : Parameter → String)

/-- The texts are the same for all that is shown of two methods.  A
constructor has no return type to show. -/
structure Method.ShownAlike (left right : Method) : Prop where
  returnType : left.isConstructor = false →
    typeText left.returnType = typeText right.returnType
  parameters : left.declaredParameters.map parameterText =
    right.declaredParameters.map parameterText

def Field.ShownAlike (left right : Field) : Prop :=
  typeText left.type = typeText right.type

def Event.ShownAlike (left right : Event) : Prop :=
  left.handlerParameters.map parameterText =
    right.handlerParameters.map parameterText

/-- The members that are declared are shown alike, one by one. -/
structure Class.ShownAlike (left right : Class) : Prop where
  methods : List.Forall₂ (Method.ShownAlike typeText parameterText)
    left.eligibleMethods right.eligibleMethods
  fields : List.Forall₂ (Field.ShownAlike typeText)
    left.eligibleFields right.eligibleFields
  events : List.Forall₂ (Event.ShownAlike parameterText)
    (Header.emittedEvents left) (Header.emittedEvents right)

def CompilationUnit.ShownAlike (left right : CompilationUnit) : Prop :=
  List.Forall₂ (Class.ShownAlike typeText parameterText)
    (Header.emittedClasses left) (Header.emittedClasses right)

end Shown

private theorem forall₂_map_of_forall
    {β : Type} {alike : β → β → Prop} {change : β → β} {members : List β}
    (single : ∀ member ∈ members, alike member (change member)) :
    List.Forall₂ alike members (members.map change) :=
  List.forall₂_map_right_iff.mpr (List.forall₂_same.mpr single)

section UnseenTypes

variable
  {typeText : QualifiedType → String} {parameterText : Parameter → String}

theorem Method.shownAlike_withoutUnseenTypes
    {owner : Class} {method : Method}
    (eligible : method ∈ owner.eligibleMethods) :
    method.ShownAlike typeText parameterText
      (method.withoutUnseenTypes owner) := by
  have notExcluded : ¬ method.isExcluded owner = true := by
    simpa using (List.mem_filter.mp eligible).2
  rw [withoutUnseenTypes, if_neg notExcluded]
  refine ⟨?_, ?_⟩
  · intro isOther
    simp only [isOther, Bool.false_eq_true, if_false]
  · by_cases converted : method.conversion = .toInstanceMethod
    · simp only [declaredParameters, converted, if_true,
        List.tail_modifyHead]
    · simp only [declaredParameters, converted, if_false]

theorem Class.shownAlike_withoutUnseenTypes
    {owner : Class} (kept : ¬ owner.declaration.ignored = true) :
    owner.ShownAlike typeText parameterText owner.withoutUnseenTypes := by
  refine ⟨?_, ?_, ?_⟩
  · rw [eligibleMethods_withoutUnseenTypes kept]
    apply forall₂_map_of_forall
    intro method eligible
    exact Method.shownAlike_withoutUnseenTypes eligible
  · rw [eligibleFields_withoutUnseenTypes kept]
    apply forall₂_map_of_forall
    intro field eligible
    have notExcluded : ¬ field.isExcluded = true := by
      simpa using (List.mem_filter.mp eligible).2
    rw [Field.withoutUnseenType, if_neg notExcluded, Field.ShownAlike]
  · rw [Header.emittedEvents_withoutUnseenTypes kept]
    apply forall₂_map_of_forall
    intro event emitted
    have notIgnored : ¬ event.declaration.ignored = true := by
      simpa using (List.mem_filter.mp emitted).2
    rw [Event.withoutUnseenTypes, if_neg notIgnored, Event.ShownAlike]

theorem CompilationUnit.shownAlike_withoutUnseenTypes
    (unit : CompilationUnit) :
    unit.ShownAlike typeText parameterText unit.withoutUnseenTypes := by
  rw [ShownAlike, Header.emittedClasses_withoutUnseenTypes]
  apply forall₂_map_of_forall
  intro owner emitted
  have kept : ¬ owner.declaration.ignored = true := by
    simpa using (List.mem_filter.mp emitted).2
  exact Class.shownAlike_withoutUnseenTypes kept

end UnseenTypes

section Pairs

variable {β γ δ : Type} {alike wanted : β → β → Prop} {lefts rights : List β}

/-- Lists that agree up to something forgotten, and are alike one by one, are
so in every way that follows for single members. -/
theorem forall₂_of_map_eq
    {forget : β → γ}
    (single : ∀ left right, forget left = forget right → alike left right →
      wanted left right)
    (sameRest : lefts.map forget = rights.map forget)
    (shown : List.Forall₂ alike lefts rights) :
    List.Forall₂ wanted lefts rights := by
  induction shown with
  | nil => exact .nil
  | cons first _ inductionHypothesis =>
      rw [List.map_cons, List.map_cons, List.cons.injEq] at sameRest
      exact .cons (single _ _ sameRest.1 first)
        (inductionHypothesis sameRest.2)

/-- The same for what is listed for single members. -/
theorem flatMap_eq_of_map_eq
    {forget : β → γ} {leftItems rightItems : β → List δ}
    (single : ∀ left right, forget left = forget right → alike left right →
      leftItems left = rightItems right)
    (sameRest : lefts.map forget = rights.map forget)
    (shown : List.Forall₂ alike lefts rights) :
    lefts.flatMap leftItems = rights.flatMap rightItems := by
  have same := forall₂_of_map_eq single sameRest shown
  clear sameRest shown
  induction same with
  | nil => rfl
  | cons first _ inductionHypothesis =>
      rw [List.flatMap_cons, List.flatMap_cons, first, inductionHypothesis]

end Pairs

/-- Where a parameter is shown by its type and its name, the names and the
texts of the types determine the texts of the parameters. -/
theorem TypePrinter.map_printParameter_ofTypes
    {printType : QualifiedType → String} {lefts rights : List Parameter}
    (sameRest : lefts.map Parameter.withoutType =
      rights.map Parameter.withoutType)
    (sameTexts : lefts.map (fun parameter => printType parameter.type) =
      rights.map fun parameter => printType parameter.type) :
    lefts.map (ofTypes printType).printParameter =
      rights.map (ofTypes printType).printParameter := by
  induction lefts generalizing rights with
  | nil =>
      have empty : rights = [] := by simpa using sameRest
      rw [empty]
  | cons left lefts inductionHypothesis =>
      cases rights with
      | nil => simp at sameRest
      | cons right rights =>
          simp only [List.map_cons, List.cons.injEq] at sameRest sameTexts ⊢
          have sameName : left.name = right.name :=
            (congrArg Parameter.name sameRest.1 :)
          have sameText :
              (ofTypes printType).printParameter left =
                (ofTypes printType).printParameter right := by
            simp only [ofTypes, sameName, sameTexts.1]
          exact ⟨sameText, inductionHypothesis sameRest.2 sameTexts.2⟩

section StandardParameters

variable {printType : QualifiedType → String}

theorem Method.ShownAlike.ofTypes
    {left right : Method}
    (sameRest : left.withoutTypes = right.withoutTypes)
    (shown : left.ShownAlike printType
      (fun parameter => printType parameter.type) right) :
    left.ShownAlike printType
      (TypePrinter.ofTypes printType).printParameter right := by
  refine ⟨shown.returnType, ?_⟩
  apply TypePrinter.map_printParameter_ofTypes _ shown.parameters
  rw [← declaredParameters_withoutTypes, sameRest,
    declaredParameters_withoutTypes]

theorem Event.ShownAlike.ofTypes
    {left right : Event}
    (shown : left.ShownAlike
      (fun parameter => printType parameter.type) right) :
    left.ShownAlike (TypePrinter.ofTypes printType).printParameter
      right := by
  have sameLength :
      left.handlerParameters.length = right.handlerParameters.length := by
    have sameTexts := congrArg List.length shown
    rwa [List.length_map, List.length_map] at sameTexts
  apply TypePrinter.map_printParameter_ofTypes _ shown
  rw [handlerParameters_withoutType, handlerParameters_withoutType,
    sameLength]

theorem Class.ShownAlike.ofTypes
    {left right : Class}
    (sameRest : left.withoutTypes = right.withoutTypes)
    (shown : left.ShownAlike printType
      (fun parameter => printType parameter.type) right) :
    left.ShownAlike printType
      (TypePrinter.ofTypes printType).printParameter right where
  methods := by
    apply forall₂_of_map_eq (fun _ _ => Method.ShownAlike.ofTypes) _
      shown.methods
    rw [← eligibleMethods_withoutTypes, sameRest,
      eligibleMethods_withoutTypes]
  fields := shown.fields
  events := shown.events.imp fun _ _ => Event.ShownAlike.ofTypes

theorem CompilationUnit.ShownAlike.ofTypes
    {left right : CompilationUnit}
    (sameRest : left.withoutTypes = right.withoutTypes)
    (shown : left.ShownAlike printType
      (fun parameter => printType parameter.type) right) :
    left.ShownAlike printType
      (TypePrinter.ofTypes printType).printParameter right := by
  apply forall₂_of_map_eq (fun _ _ => Class.ShownAlike.ofTypes) _ shown
  rw [← Header.emittedClasses_withoutTypes, sameRest,
    Header.emittedClasses_withoutTypes]

end StandardParameters

namespace Header

open Listing (Item)

/-! ## Listings of what is shown alike -/

section Items

variable {printer : TypePrinter} {depth : Nat}

theorem methodText_of_not_isConstructor
    (printer : TypePrinter) (owner : Class) {method : Method}
    (isOther : method.isConstructor = false) :
    methodText printer owner method =
      (if isStaticMethod method then "static " else "") ++
        (printer.printType method.returnType ++ " " ++ method.name) ++ "(" ++
        printer.methodParameters method ++ ");" := by
  rw [methodParameters_eq, methodText, if_neg (ne_true_of_eq_false isOther)]
  rfl

theorem methodText_eq_of_shownAlike
    {leftOwner rightOwner : Class} {left right : Method}
    (sameOwner : leftOwner.name = rightOwner.name)
    (sameRest : left.withoutTypes = right.withoutTypes)
    (shown : left.ShownAlike printer.printType printer.printParameter
      right) :
    methodText printer leftOwner left =
      methodText printer rightOwner right := by
  have sameStatic : isStaticMethod left = isStaticMethod right :=
    (congrArg isStaticMethod sameRest :)
  have sameKind : left.isConstructor = right.isConstructor :=
    (congrArg Method.isConstructor sameRest :)
  have sameName : left.name = right.name :=
    (congrArg Method.name sameRest :)
  have sameParameters :
      printer.methodParameters left = printer.methodParameters right := by
    rw [printer.methodParameters_eq_parameterList,
      printer.methodParameters_eq_parameterList, TypePrinter.parameterList,
      TypePrinter.parameterList, shown.parameters]
  cases constructs : left.isConstructor with
  | true =>
      have constructsRight : right.isConstructor = true :=
        sameKind ▸ constructs
      rw [methodText_of_isConstructor printer leftOwner constructs,
        methodText_of_isConstructor printer rightOwner constructsRight,
        sameStatic, sameOwner, sameParameters]
  | false =>
      have othersRight : right.isConstructor = false :=
        sameKind ▸ constructs
      rw [methodText_of_not_isConstructor printer leftOwner constructs,
        methodText_of_not_isConstructor printer rightOwner othersRight,
        sameStatic, shown.returnType constructs, sameName, sameParameters]

theorem methodItems_eq_of_shownAlike
    {leftOwner rightOwner : Class} {left right : Method}
    (sameOwner : leftOwner.name = rightOwner.name)
    (sameRest : left.withoutTypes = right.withoutTypes)
    (shown : left.ShownAlike printer.printType printer.printParameter
      right) :
    methodItems printer leftOwner depth left =
      methodItems printer rightOwner depth right := by
  have sameDeclaration : left.declaration = right.declaration :=
    (congrArg Method.declaration sameRest :)
  rw [methodItems, methodItems, sameDeclaration,
    methodText_eq_of_shownAlike sameOwner sameRest shown]

theorem fieldItems_eq_of_shownAlike
    {left right : Field}
    (sameRest : left.withoutType = right.withoutType)
    (shown : left.ShownAlike printer.printType right) :
    fieldItems printer depth left = fieldItems printer depth right := by
  obtain ⟨declaration, leftType⟩ := left
  obtain ⟨_, rightType⟩ := right
  simp only [Field.withoutType, Field.mk.injEq] at sameRest
  obtain ⟨rfl, -⟩ := sameRest
  have sameText :
      printer.printType leftType = printer.printType rightType := shown
  simp only [fieldItems, sameText]
  rfl

theorem eventItems_eq_of_shownAlike
    {left right : Event}
    (sameRest : left.withoutTypes = right.withoutTypes)
    (shown : left.ShownAlike printer.printParameter right) :
    eventItems printer depth left = eventItems printer depth right := by
  obtain ⟨declaration, leftTypes⟩ := left
  obtain ⟨_, rightTypes⟩ := right
  simp only [Event.withoutTypes, Event.mk.injEq] at sameRest
  obtain ⟨rfl, -⟩ := sameRest
  have sameTexts :
      (Event.mk declaration leftTypes).handlerParameters.map
          printer.printParameter =
        (Event.mk declaration rightTypes).handlerParameters.map
          printer.printParameter := shown
  have sameLine :
      delegateLine printer (Event.mk declaration leftTypes) =
        delegateLine printer (Event.mk declaration rightTypes) :=
    congrArg
      (fun texts =>
        "delegate void " ++ emittedIdentifier declaration.name ++
          "Handler(" ++ ", ".intercalate texts ++ ");")
      sameTexts
  rw [eventItems_eq, eventItems_eq, sameLine]
  rfl

theorem classItems_eq_of_shownAlike
    {left right : Class}
    (sameRest : left.withoutTypes = right.withoutTypes)
    (shown : left.ShownAlike printer.printType printer.printParameter
      right) :
    classItems printer depth left = classItems printer depth right := by
  have sameDeclaration : left.declaration = right.declaration :=
    (congrArg Class.declaration sameRest :)
  have sameKind : left.isValueType = right.isValueType :=
    (congrArg Class.isValueType sameRest :)
  have sameName : left.name = right.name :=
    congrArg Declaration.name sameDeclaration
  have methods :
      left.eligibleMethods.flatMap (methodItems printer left (depth + 1)) =
        right.eligibleMethods.flatMap
          (methodItems printer right (depth + 1)) := by
    apply flatMap_eq_of_map_eq
      (fun _ _ => methodItems_eq_of_shownAlike sameName) _ shown.methods
    rw [← Class.eligibleMethods_withoutTypes, sameRest,
      Class.eligibleMethods_withoutTypes]
  have fields :
      left.eligibleFields.flatMap (fieldItems printer (depth + 1)) =
        right.eligibleFields.flatMap
          (fieldItems printer (depth + 1)) := by
    apply flatMap_eq_of_map_eq (fun _ _ => fieldItems_eq_of_shownAlike) _
      shown.fields
    rw [← Class.eligibleFields_withoutTypes, sameRest,
      Class.eligibleFields_withoutTypes]
  have events :
      (emittedEvents left).flatMap (eventItems printer (depth + 1)) =
        (emittedEvents right).flatMap (eventItems printer (depth + 1)) := by
    apply flatMap_eq_of_map_eq (fun _ _ => eventItems_eq_of_shownAlike) _
      shown.events
    rw [← emittedEvents_withoutTypes, sameRest, emittedEvents_withoutTypes]
  have members :
      memberItems printer (depth + 1) left =
        memberItems printer (depth + 1) right := by
    rw [memberItems_eq, memberItems_eq, methods, fields, events]
  rw [classItems, classItems, members, classOpening, classOpening,
    sameDeclaration, sameKind, sameName]

theorem headerItems_eq_of_shownAlike
    {left right : CompilationUnit} (options : Options)
    (sameRest : left.withoutTypes = right.withoutTypes)
    (shown : left.ShownAlike printer.printType printer.printParameter
      right) :
    headerItems left options printer = headerItems right options printer := by
  have sameFile : left.fileName = right.fileName :=
    (congrArg CompilationUnit.fileName sameRest :)
  have classes :
      (emittedClasses left).flatMap
          (classItems printer (classDepth options)) =
        (emittedClasses right).flatMap
          (classItems printer (classDepth options)) := by
    apply flatMap_eq_of_map_eq (fun _ _ => classItems_eq_of_shownAlike) _ shown
    rw [← emittedClasses_withoutTypes, sameRest, emittedClasses_withoutTypes]
  change
    topItems left ++ namespaceItems options ((emittedClasses left).flatMap _) =
      topItems right ++
        namespaceItems options ((emittedClasses right).flatMap _)
  rw [topItems, topItems, sameFile, classes]

end Items

theorem classEvents_withoutTypes (owner : Class) :
    classEvents owner.withoutTypes = classEvents owner := by
  have methods (method : Method) :
      methodEvents owner.withoutTypes method.withoutTypes =
        methodEvents owner method := by
    rw [methodEvents, method.exclusion?_withoutTypes]
    rfl
  rw [classEvents]
  change
    (owner.methods.map Method.withoutTypes).flatMap
          (methodEvents owner.withoutTypes) ++
        (owner.fields.map Field.withoutType).flatMap
          (fieldEvents owner.withoutTypes) = _
  rw [List.flatMap_map, List.flatMap_map]
  simp only [methods]
  rfl

theorem unitEvents_withoutTypes (unit : CompilationUnit) :
    (emittedClasses unit.withoutTypes).flatMap classEvents =
      (emittedClasses unit).flatMap classEvents := by
  rw [emittedClasses_withoutTypes, List.flatMap_map]
  simp only [classEvents_withoutTypes]

section Rendered

variable {η : Type} [Hook η]

theorem renderUnit_eq_of_shownAlike
    {left right : CompilationUnit} (options : Options)
    {printer : TypePrinter} {hooks : HookTable η}
    (unhooked : hooks.get? left.fileName = none)
    (sameRest : left.withoutTypes = right.withoutTypes)
    (shown : left.ShownAlike printer.printType printer.printParameter
      right) :
    renderUnit layout left options printer hooks =
      renderUnit layout right options printer hooks := by
  have sameFile : left.fileName = right.fileName :=
    (congrArg CompilationUnit.fileName sameRest :)
  have sameItems := headerItems_eq_of_shownAlike options sameRest shown
  have sameEvents :
      (emittedClasses left).flatMap classEvents =
        (emittedClasses right).flatMap classEvents := by
    rw [← unitEvents_withoutTypes, sameRest, unitEvents_withoutTypes]
  rw [renderUnit_unhooked left options printer hooks unhooked,
    renderUnit_unhooked right options printer hooks (sameFile ▸ unhooked),
    sameFile, sameItems, sameEvents]

/-- Two units that are the same up to their types, and all of whose types that
are shown have the same texts, give the same file and the same log.  This is so
for the parameters as the printer shows them, and for those of a printer with
the standard form if their types have the same texts.  The types that are not
shown can be erased. -/
theorem types_reach_header_through_printer
    (left right : CompilationUnit) (options : Options) (hooks : HookTable η)
    (unhooked : hooks.get? left.fileName = none)
    (same : left.withoutTypes = right.withoutTypes) :
    (∀ printer : TypePrinter,
      left.ShownAlike printer.printType printer.printParameter right →
        renderUnit layout left options printer hooks =
          renderUnit layout right options printer hooks) ∧
      (∀ printType : QualifiedType → String,
        left.ShownAlike printType (fun parameter => printType parameter.type)
            right →
          renderUnit layout left options (.ofTypes printType) hooks =
            renderUnit layout right options (.ofTypes printType) hooks) ∧
      ∀ printer : TypePrinter,
        renderUnit layout left.withoutUnseenTypes options printer hooks =
          renderUnit layout left options printer hooks := by
  refine ⟨?_, ?_, ?_⟩
  · intro printer shown
    exact renderUnit_eq_of_shownAlike options unhooked same shown
  · intro printType shown
    exact renderUnit_eq_of_shownAlike options unhooked same
      (shown.ofTypes same)
  · intro printer
    have sameRest := left.withoutTypes_withoutUnseenTypes
    exact (renderUnit_eq_of_shownAlike options unhooked sameRest.symm
      left.shownAlike_withoutUnseenTypes).symm

end Rendered

/-- All pointers and references are shown alike. -/
def handleText (type : QualifiedType) : String :=
  if type.type.isIndirection then "System::IntPtr" else type.spelling

/-- A class with types that are shown and with types that are not: those of a
constructor, of a receiver, of a private field and of an event that is
ignored. -/
def handleUnit (shown unseen : QualifiedType) : CompilationUnit :=
  (CompilationUnit.ofFile "handle.h").withClass
    { Class.named "Handle" with
      methods :=
        [{ Method.constructorOf "Handle" .constructor with
            returnType := unseen },
          ((Method.named "Attach" shown).withConversion
            .toInstanceMethod).withParameters
              [⟨"self", unseen⟩, ⟨"target", shown⟩]]
      fields :=
        [.named "native" shown,
          (Field.named "cache" unseen).withAccess .privateAccess]
      events :=
        [.named "Moved" [shown, shown],
          { Event.named "Lost" [unseen] with
            declaration := (Declaration.named "Lost").markIgnored }] }

/-- Two kinds of handles that are shown alike. -/
theorem handle_types_reach_header_through_printer :
    let left := handleUnit (.pointerTo .void) .void
    let right := handleUnit (.pointerTo (.tag "gfx::Canvas")) (.builtin .int)
    left ≠ right ∧
      otherUnitHooks.get? left.fileName = none ∧
      left.withoutTypes = right.withoutTypes ∧
      left.ShownAlike handleText (fun parameter => handleText parameter.type)
        right ∧
      renderUnit layout left .standard (.ofTypes handleText)
          otherUnitHooks =
        renderUnit layout right .standard (.ofTypes handleText)
          otherUnitHooks := by
  intro left right
  have shown :
      left.ShownAlike handleText (fun parameter => handleText parameter.type)
        right := by
    refine .cons ⟨?_, ?_, ?_⟩ .nil
    · have constructor : ¬ (Method.isConstructor
          (.constructorOf "Handle" .constructor) = false) := by decide
      exact .cons ⟨fun isOther => absurd isOther constructor, rfl⟩
        (.cons ⟨fun _ => rfl, rfl⟩ .nil)
    · exact .cons rfl .nil
    · exact .cons rfl .nil
  exact ⟨by decide, rfl, rfl, shown,
    (types_reach_header_through_printer left right .standard otherUnitHooks
      rfl rfl).2.1 handleText shown⟩

end Header

end ManagedBinding
