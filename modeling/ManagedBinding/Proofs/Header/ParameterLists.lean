import ManagedBinding.Proofs.Header.ConstructorParameters
import ManagedBinding.Proofs.Text.Separators
import Mathlib.Data.List.Nodup

/-!
# Lists of parameters

Parameters are listed in three places: in the declaration of a method, without
the receiver of a converted function; as a list on its own; and in the delegate
of an event, under numbered names.  The list is one line with commas between
the entries.  If every entry has some text, no comma and no line feed, cutting
the list at its commas gives the entries back, and it reaches the output as it
is, since it never starts a line.
-/

namespace ManagedBinding

/-- The text can be an entry of a list. -/
structure IsEntry (text : String) : Prop where
  nonempty : text ≠ ""
  noComma : ',' ∉ text.toList
  unbroken : '\n' ∉ text.toList

instance (text : String) : Decidable (IsEntry text) :=
  decidable_of_iff
    (text ≠ "" ∧ ',' ∉ text.toList ∧ '\n' ∉ text.toList)
    ⟨fun conditions => ⟨conditions.1, conditions.2.1, conditions.2.2⟩,
      fun isEntry => ⟨isEntry.nonempty, isEntry.noComma, isEntry.unbroken⟩⟩

/-- The text lists the entries.  Without entries it is empty, and otherwise its
parts between the commas are the entries in order. -/
structure Lists (text : String) (entries : List String) : Prop where
  eq_empty_iff : text = "" ↔ entries = []
  parts_eq : entries ≠ [] → Text.parts ", " text = entries

theorem lists_intercalate
    {entries : List String}
    (areEntries : ∀ entry ∈ entries, IsEntry entry) :
    Lists (", ".intercalate entries) entries := by
  have separator : ", ".toList = [',', ' '] := by
    decide
  have parts (nonempty : entries ≠ []) :
      Text.parts ", " (", ".intercalate entries) = entries :=
    Text.parts_intercalate separator nonempty fun entry member =>
      (areEntries entry member).noComma
  refine ⟨?_, parts⟩
  constructor
  · intro isEmpty
    by_contra nonempty
    have onlyEntry : [""] = entries := by
      have sameParts := parts nonempty
      rw [isEmpty] at sameParts
      exact sameParts
    have member : "" ∈ entries := by
      rw [← onlyEntry]
      exact List.mem_singleton_self ""
    exact (areEntries "" member).nonempty rfl
  · rintro rfl
    rfl

theorem intercalate_unbroken
    {entries : List String}
    (areEntries : ∀ entry ∈ entries, IsEntry entry) :
    '\n' ∉ (", ".intercalate entries).toList := by
  intro inside
  rw [String.toList_intercalate] at inside
  rcases Text.mem_or_mem_of_mem_intercalate inside with
    inSeparator | ⟨segment, segmentMember, inSegment⟩
  · exact absurd inSeparator (by decide)
  · obtain ⟨entry, member, rfl⟩ := List.mem_map.mp segmentMember
    exact (areEntries entry member).unbroken inSegment

/-- The printer makes an entry of every parameter in the list. -/
def TypePrinter.PrintsEntries
    (printer : TypePrinter) (parameters : List Parameter) : Prop :=
  ∀ parameter ∈ parameters, IsEntry (printer.printParameter parameter)

instance (printer : TypePrinter) (parameters : List Parameter) :
    Decidable (printer.PrintsEntries parameters) :=
  List.decidableBAll
    (fun parameter => IsEntry (printer.printParameter parameter)) parameters

namespace TypePrinter.PrintsEntries

variable {printer : TypePrinter} {parameters : List Parameter}

theorem isEntry_of_mem
    (prints : printer.PrintsEntries parameters) :
    ∀ entry ∈ parameters.map printer.printParameter, IsEntry entry := by
  intro entry member
  obtain ⟨parameter, parameterMember, rfl⟩ := List.mem_map.mp member
  exact prints parameter parameterMember

theorem lists_parameterList
    (prints : printer.PrintsEntries parameters) :
    Lists (printer.parameterList parameters)
      (parameters.map printer.printParameter) :=
  lists_intercalate prints.isEntry_of_mem

theorem parameterList_unbroken
    (prints : printer.PrintsEntries parameters) :
    '\n' ∉ (printer.parameterList parameters).toList :=
  intercalate_unbroken prints.isEntry_of_mem

/-- The receiver may be printed in any way. -/
theorem declaredParameters
    {method : Method} (prints : printer.PrintsEntries method.parameters) :
    printer.PrintsEntries method.declaredParameters := by
  intro parameter member
  apply prints
  rw [Method.declaredParameters] at member
  split at member
  · exact List.mem_of_mem_tail member
  · exact member

end TypePrinter.PrintsEntries

/-- Inside a line, a list of parameters is appended as it is. -/
theorem Rendering.write_parameterList
    {η : Type} {rendering : Rendering η}
    (inside : rendering.output.atLineStart = false)
    {printer : TypePrinter} {parameters : List Parameter}
    (prints : printer.PrintsEntries parameters) :
    (rendering.write (printer.parameterList parameters)).output.text =
      rendering.output.text ++ printer.parameterList parameters := by
  have written :=
    IndentedText.write_inside inside prints.parameterList_unbroken
  rw [Rendering.write, written]

namespace Event

theorem map_type_handlerParameters (event : Event) :
    event.handlerParameters.map Parameter.type = event.parameterTypes := by
  apply List.ext_getElem
  · simp [handlerParameters]
  · intro index _ _
    simp [handlerParameters]

theorem map_name_handlerParameters (event : Event) :
    event.handlerParameters.map Parameter.name =
      (List.range event.parameterTypes.length).map fun index =>
        "_" ++ toString index := by
  apply List.ext_getElem
  · simp [handlerParameters]
  · intro index _ _
    simp [handlerParameters]

/-- Different numbers make different names. -/
theorem nodup_names_handlerParameters (event : Event) :
    (event.handlerParameters.map Parameter.name).Nodup := by
  have numbered_injective :
      Function.Injective fun index : Nat => "_" ++ toString index := by
    intro index other sameName
    have sameChars := congrArg String.toList sameName
    simp only [String.toList_append] at sameChars
    have sameDigits :
        (toString index).toList = (toString other).toList :=
      List.append_cancel_left sameChars
    have sameValue :=
      congrArg (fun digits => Nat.ofDigitChars 10 digits 0) sameDigits
    simpa using sameValue
  rw [map_name_handlerParameters]
  exact List.Nodup.map numbered_injective List.nodup_range

end Event

namespace Header

variable {η : Type}

/-- Write an event up to the parameters of its delegate. -/
def openDelegate (rendering : Rendering η) (event : Event) : Rendering η :=
  (writeComment rendering event.declaration).write
    ("delegate void " ++ event.name ++ "Handler(")

theorem atLineStart_openDelegate (rendering : Rendering η) (event : Event) :
    (openDelegate rendering event).output.atLineStart = false := by
  have opening :
      "delegate void " ++ event.name ++ "Handler(" =
        ("delegate void " ++ event.name ++ "Handler").push '(' := by
    simp [← String.toList_inj]
  rw [openDelegate, opening]
  exact IndentedText.atLineStart_write_concat _ _ (by decide)

theorem writeEvent_eq
    (printer : TypePrinter) (rendering : Rendering η) (event : Event) :
    writeEvent printer rendering event =
      (((openDelegate rendering event).write
          (printer.parameterList event.handlerParameters)).writeLine
        ");").writeLine (eventLine event) := by
  rw [openDelegate, Rendering.write_write, Rendering.write_writeLine]
  rfl

/-- Let the printer make entries of the parameters.  Then a method that is
written inside a line adds a list of all its parameters, without the first one
exactly if it is a function converted to an instance method; a list on its own
has all parameters; and the delegate of an event has a list of parameters with
the types of the event, in order, under numbered names that are pairwise
different. -/
theorem parameter_lists_name_all_parameters (printer : TypePrinter) :
    (∀ (method : Method) (rendering : Rendering η),
        printer.PrintsEntries method.parameters →
        rendering.output.atLineStart = false →
          (rendering.write (printer.methodParameters method)).output.text =
              rendering.output.text ++ printer.methodParameters method ∧
            Lists (printer.methodParameters method)
              ((if method.conversion = .toInstanceMethod then
                  method.parameters.tail
                else
                  method.parameters).map printer.printParameter)) ∧
      (∀ parameters : List Parameter, printer.PrintsEntries parameters →
        Lists (printer.parameterList parameters)
          (parameters.map printer.printParameter)) ∧
      (∀ (event : Event) (rendering : Rendering η),
        printer.PrintsEntries event.handlerParameters →
          let opened := openDelegate rendering event
          let list := printer.parameterList event.handlerParameters
          writeEvent printer rendering event =
              ((opened.write list).writeLine ");").writeLine
                (eventLine event) ∧
            (opened.write list).output.text = opened.output.text ++ list ∧
            Lists list
              (event.handlerParameters.map printer.printParameter)) ∧
      ∀ event : Event,
        event.handlerParameters.map Parameter.type = event.parameterTypes ∧
          event.handlerParameters.map Parameter.name =
            ((List.range event.parameterTypes.length).map fun index =>
              "_" ++ toString index) ∧
          (event.handlerParameters.map Parameter.name).Nodup := by
  refine ⟨?methods, ?lists, ?delegates, ?handlers⟩
  case methods =>
    intro method rendering prints inside
    have declaredPrints := prints.declaredParameters
    rw [printer.methodParameters_eq_parameterList]
    exact ⟨Rendering.write_parameterList inside declaredPrints,
      declaredPrints.lists_parameterList⟩
  case lists =>
    intro parameters prints
    exact prints.lists_parameterList
  case delegates =>
    intro event rendering prints
    have inside := atLineStart_openDelegate rendering event
    exact ⟨writeEvent_eq printer rendering event,
      Rendering.write_parameterList inside prints,
      prints.lists_parameterList⟩
  case handlers =>
    intro event
    exact ⟨event.map_type_handlerParameters,
      event.map_name_handlerParameters,
      event.nodup_names_handlerParameters⟩

/-- A converted function with a receiver and two parameters, one of them
without a name, and an event with two types. -/
theorem parameter_lists_of_converted_function :
    let printer := TypePrinter.native
    let float := QualifiedType.builtin .float
    let int := QualifiedType.builtin .int
    let method :=
      ((Method.named "Scale" .void).withConversion .toInstanceMethod
        ).withParameters
          [⟨"self", .tag "gfx::Point"⟩, ⟨"factor", float⟩, ⟨"", int⟩]
    let event := Event.named "Moved" [int, float]
    let rendering := (Rendering.start (none : Option Unit)).write "void Scale("
    printer.PrintsEntries method.parameters ∧
      rendering.output.atLineStart = false ∧
      printer.PrintsEntries event.handlerParameters ∧
      (rendering.write (printer.methodParameters method)).output.text =
        rendering.output.text ++ printer.methodParameters method ∧
      Text.parts ", " (printer.methodParameters method) =
        ["float factor", "int"] ∧
      Text.parts ", " (printer.parameterList method.parameters) =
        ["gfx::Point self", "float factor", "int"] ∧
      Text.parts ", " (printer.parameterList event.handlerParameters) =
        ["int _0", "float _1"] := by
  intro printer float int method event rendering
  have methodPrints : printer.PrintsEntries method.parameters := by
    decide
  have eventPrints : printer.PrintsEntries event.handlerParameters := by
    decide
  have inside : rendering.output.atLineStart = false := by
    decide
  obtain ⟨methods, lists, delegates, _⟩ :=
    @parameter_lists_name_all_parameters Unit printer
  obtain ⟨appended, declared⟩ := methods method rendering methodPrints inside
  have all := lists method.parameters methodPrints
  have delegate := (delegates event rendering eventPrints).2.2
  refine ⟨methodPrints, inside, eventPrints, appended, ?_, ?_, ?_⟩
  · rw [declared.parts_eq (by decide)]
    decide
  · rw [all.parts_eq (by decide)]
    decide
  · rw [delegate.parts_eq (by decide)]
    decide

/-- Without its receiver, a converted function may have no parameters left. -/
example (printer : TypePrinter) (receiver : Parameter) :
    printer.methodParameters
        (((Method.named "Clear" .void).withConversion .toInstanceMethod
          ).withParameter receiver) =
      "" :=
  rfl

end Header

end ManagedBinding
