import ManagedBinding.Proofs.Header.Eligibility
import ManagedBinding.Proofs.Header.IncludeBlock

/-!
# Constructors of value types

A value type has its default constructor without a declaration, so a
constructor without parameters is left out of it.  Whether there are parameters
is decided before the receiver of a converted function is taken off them, and
the declaration is written behind that.  The two do not agree on a constructor
whose only parameter is the receiver: it is not left out, and is declared
without parameters.

The classes of a header are written in the same way whatever a hook has done
before: the empty line in front of the first class ends a line that the hook
may have begun.
-/

namespace ManagedBinding

/-- The parameters that a method is declared with.  The receiver of a converted
function is not among them. -/
def Method.declaredParameters (method : Method) : List Parameter :=
  if method.conversion = .toInstanceMethod then
    method.parameters.tail
  else
    method.parameters

theorem TypePrinter.methodParameters_eq_parameterList
    (printer : TypePrinter) (method : Method) :
    printer.methodParameters method =
      printer.parameterList method.declaredParameters :=
  Header.methodParameters_eq printer method

/-- An eligible constructor of a value type is declared without parameters only
if its receiver is the one that it has. -/
theorem Method.declaredParameters_eq_nil_iff
    {owner : Class} {method : Method}
    (isValueType : owner.isValueType = true)
    (isConstructor : method.isConstructor = true)
    (eligible : method ∈ owner.eligibleMethods) :
    method.declaredParameters = [] ↔
      method.conversion = .toInstanceMethod ∧
        method.parameters.length = 1 := by
  have notExcluded : ¬ method.isExcluded owner = true := by
    simpa using (List.mem_filter.mp eligible).2
  have someParameter : method.parameters ≠ [] := by
    intro noParameter
    exact notExcluded <| (method.isExcluded_iff owner).mpr <|
      .inr <| .inl ⟨isValueType, isConstructor, noParameter⟩
  obtain ⟨first, others, parameters⟩ :=
    List.exists_cons_of_ne_nil someParameter
  rw [declaredParameters, parameters]
  by_cases converted : method.conversion = .toInstanceMethod
  · rw [if_pos converted]
    simp [converted]
  · rw [if_neg converted]
    simp [converted]

namespace Header

open Listing (Item)
open Rendering (Continues)

variable {η : Type}

theorem methodText_of_isConstructor
    (printer : TypePrinter) (owner : Class) {method : Method}
    (isConstructor : method.isConstructor = true) :
    methodText printer owner method =
      (if isStaticMethod method then "static " else "") ++ owner.name ++
        "(" ++ printer.methodParameters method ++ ");" := by
  rw [methodParameters_eq, methodText, if_pos isConstructor]
  rfl

/-- Each class is written behind an empty line, so it does not matter whether
the text in front of the first one ends a line. -/
theorem writeClasses_text
    (job : RenderJob) (rendering : Rendering η)
    (standard : rendering.output.style = .standard) :
    (writeClasses job rendering).output.text =
      rendering.output.text ++
        Listing.text ((emittedClasses job.unit).flatMap
          (classItems job.printer rendering.output.depth)) := by
  let started : Rendering η :=
    { rendering with
      output := { rendering.output with atLineStart := true } }
  have written :
      writeClasses job started =
        started.emit
          ((emittedClasses job.unit).flatMap
            (classItems job.printer rendering.output.depth))
          ((emittedClasses job.unit).flatMap classEvents) :=
    emits_writeClasses job started ⟨rfl, rfl, standard⟩
  cases classes : emittedClasses job.unit with
  | nil => simp [writeClasses, classes]
  | cons owner rest =>
      have sameNewLine : rendering.newLine = started.newLine := rfl
      rw [writeClasses, classes, List.foldl_cons] at written ⊢
      rw [sameNewLine, written]
      rfl

theorem continues_writeIncludes
    {recordable : Include → Prop} (unit : CompilationUnit)
    (allowed : recordable ⟨unit.fileName, .quoted⟩)
    (rendering : Rendering η) :
    Continues recordable rendering (writeIncludes unit rendering) :=
  ((Continues.refl rendering).step
    (.addInclude rendering _ allowed)).step (.write _ _)

/-- The classes of a finished header stand together, at one depth.  What a hook
has written is all above them. -/
theorem body_around_classes
    [Hook η] [LawfulHook η] (unit : CompilationUnit) (options : Options)
    (printer : TypePrinter) (hooks : HookTable η) :
    ∃ (above below : String) (depth : Nat),
      (renderUnit layout unit options printer hooks).1.body =
        above ++
          Listing.text
            ((emittedClasses unit).flatMap (classItems printer depth)) ++
          below := by
  let job : RenderJob := ⟨unit, options, printer, "h"⟩
  let started := renderingBehindStart unit options printer hooks
  let guarded := (started.writeLine "#pragma once").newLine
  let opened :=
    job.writeAfterNamespaces
      (openNamespace options (writeIncludes unit guarded))
  have continuesGuarded : Continues (fun _ => True) started guarded :=
    (Continues.writeLine started "#pragma once").step (.newLine _)
  have continuesOpened : Continues (fun _ => True) started opened :=
    ((continuesGuarded.trans
      (continues_writeIncludes unit trivial guarded)).trans
        (continues_openNamespace options _)).trans
          (job.continues_writeAfterNamespaces _)
  have standardStart : started.output.style = .standard :=
    (job.continues_writeStart _).toExtends.style_eq
  have standard : opened.output.style = .standard :=
    continuesOpened.toExtends.style_eq.trans standardStart
  have closing :
      Continues (fun _ => False) (writeClasses job opened)
        (closeNamespace options (writeClasses job opened)) :=
    continues_closeNamespace options _
  obtain ⟨below, belowEq⟩ := closing.toExtends.text_extends
  refine ⟨opened.output.text, below, opened.output.depth, ?_⟩
  have bodyEq :
      (renderUnit layout unit options printer hooks).1.body =
        (writeClasses job opened).output.text ++ below :=
    belowEq
  rw [bodyEq, writeClasses_text job opened standard]

/-- The classes of a header declare their eligible methods, whatever a hook
does.  A constructor that is declared for a value type names the parameters
that are not its receiver, and these are none exactly if the constructor is a
converted function whose only parameter is its receiver. -/
theorem declared_constructors_of_value_types
    [Hook η] [LawfulHook η] (unit : CompilationUnit) (options : Options)
    (printer : TypePrinter) (hooks : HookTable η) :
    (∃ (above below : String) (depth : Nat),
      (renderUnit layout unit options printer hooks).1.body =
        above ++
          Listing.text
            ((emittedClasses unit).flatMap fun owner =>
              classOpening depth owner ++
                (owner.eligibleMethods.flatMap
                    (methodItems printer owner (depth + 1)) ++
                  owner.eligibleFields.flatMap
                    (fieldItems printer (depth + 1)) ++
                  (emittedEvents owner).flatMap
                    (eventItems printer (depth + 1))) ++
                [⟨depth, "\x7d;"⟩]) ++
          below) ∧
      ∀ owner ∈ emittedClasses unit, owner.isValueType = true →
        ∀ method ∈ owner.eligibleMethods, method.isConstructor = true →
          methodText printer owner method =
              (if isStaticMethod method then "static " else "") ++
                owner.name ++ "(" ++
                printer.parameterList method.declaredParameters ++ ");" ∧
            (method.declaredParameters = [] ↔
              method.conversion = .toInstanceMethod ∧
                method.parameters.length = 1) := by
  constructor
  · simp only [← classItems_eq]
    exact body_around_classes unit options printer hooks
  · intro owner _ isValueType method eligible isConstructor
    refine ⟨?_, method.declaredParameters_eq_nil_iff isValueType
      isConstructor eligible⟩
    rw [methodText_of_isConstructor printer owner isConstructor,
      printer.methodParameters_eq_parameterList]

/-- The sample unit has one value type.  It declares one constructor, which is
no converted function. -/
theorem declared_constructors_of_geometry :
    LawfulHook RecordingHook ∧
      (∃ (above below : String) (depth : Nat),
        (renderUnit layout Geometry.unit .standard .native
            recordingHooks).1.body =
          above ++
            Listing.text
              ((emittedClasses Geometry.unit).flatMap
                (classItems .native depth)) ++
            below) ∧
      (∃ method ∈ Geometry.point.eligibleMethods,
        method.isConstructor = true) ∧
      ∀ method ∈ Geometry.point.eligibleMethods,
        method.isConstructor = true → method.declaredParameters ≠ [] := by
  obtain ⟨classes, constructors⟩ :=
    declared_constructors_of_value_types Geometry.unit .standard .native
      recordingHooks
  refine ⟨inferInstance, classes, by decide, ?_⟩
  intro method eligible isConstructor noParameter
  have notConverted :
      ∀ method ∈ Geometry.point.eligibleMethods,
        method.isConstructor = true →
          method.conversion ≠ .toInstanceMethod := by
    decide
  have receiverOnly :=
    (constructors Geometry.point (by decide) rfl method eligible
      isConstructor).2.mp noParameter
  exact notConverted method eligible isConstructor receiverOnly.1

/-- A value type with a constructor that is a converted function and has its
receiver as the only parameter. -/
def receiverConstructorUnit : CompilationUnit :=
  let constructor :=
    ((Method.constructorOf "P" .constructor).withConversion
      .toInstanceMethod).withParameter ⟨"self", .builtin .int⟩
  (CompilationUnit.ofFile "a.h").withClass <|
    (Class.named "P").asValueType.withMethod constructor

/-- The constructor is declared, as the first member and without
parameters. -/
theorem receiver_constructor_has_no_parameters :
    (∃ owner ∈ emittedClasses receiverConstructorUnit,
      owner.isValueType = true ∧
        ∃ method ∈ owner.eligibleMethods,
          method.isConstructor = true ∧ method.declaredParameters = []) ∧
      ∃ above below : String,
        (renderUnit layout receiverConstructorUnit .standard .native
            otherUnitHooks).1.body =
          above ++ "public:\n    P();\n" ++ below := by
  refine ⟨by decide, ?_⟩
  let items := headerItems receiverConstructorUnit .standard .native
  let shown : List Item := [⟨0, "public:"⟩, ⟨1, "P();"⟩]
  have around : items = items.take 10 ++ shown ++ items.drop 12 := by
    decide
  have declared : Listing.text shown = "public:\n    P();\n" := by
    decide
  refine ⟨Listing.text (items.take 10), Listing.text (items.drop 12), ?_⟩
  calc
    (renderUnit layout receiverConstructorUnit .standard .native
        otherUnitHooks).1.body =
        Listing.text items := by
      rw [renderUnit_unhooked receiverConstructorUnit .standard .native
        otherUnitHooks rfl]
    _ = Listing.text (items.take 10 ++ shown ++ items.drop 12) :=
      congrArg Listing.text around
    _ = Listing.text (items.take 10) ++ "public:\n    P();\n" ++
          Listing.text (items.drop 12) := by
      rw [Listing.text_append, Listing.text_append, declared]

end Header

end ManagedBinding
