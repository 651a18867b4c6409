import ManagedBinding.Model.CompilationUnit
import ManagedBinding.Proofs.Model.MethodCalls

/-!
# Frames of the calls of a construction

Fields, events and classes are built by calls as declarations and methods are.
The calls on access, comment and scopes and the ignored flag of a member or a
class go to its declaration, which is taken out, changed and put back.

No call disturbs what it does not address.  The last given value, the flag and
the grown list of each part are found from the calls on this part alone, for
every start and every number of calls.  So calls on different parts may change
places.
-/

namespace ManagedBinding

/-- A call that changes a field under construction. -/
inductive FieldCall
  | withAccess (access : Access)
  | withComment (comment : String)
  | markIgnored
  deriving DecidableEq, Repr

namespace FieldCall

def perform (field : Field) : FieldCall → Field
  | .withAccess access => field.withAccess access
  | .withComment comment => field.withComment comment
  | .markIgnored => field.markIgnored

/-- The part that the call addresses. -/
def part : FieldCall → RecordPart
  | .withAccess _ => .access
  | .withComment _ => .comment
  | .markIgnored => .ignored

/-- The call on the declaration of the field. -/
def declarationCall? : FieldCall → Option DeclarationCall
  | .withAccess access => some (.withAccess access)
  | .withComment comment => some (.withComment comment)
  | .markIgnored => some .markIgnored

theorem part_declarationCall? (call : FieldCall) (passed : DeclarationCall)
    (passes : call.declarationCall? = some passed) :
    passed.part = call.part := by
  cases call with
  | withAccess access => cases passes; rfl
  | withComment comment => cases passes; rfl
  | markIgnored => cases passes; rfl

/-- What the calls on each part leave of a field.  No call addresses its
type. -/
def outcome (start : Field) (callsOn : RecordPart → List FieldCall) :
    Field where
  declaration :=
    DeclarationCall.outcome start.declaration
      fun place => (callsOn place).filterMap declarationCall?
  type := start.type

theorem outcome_singleton (start : Field) (call : FieldCall) :
    outcome start (addressing part [call]) = perform start call := by
  rw [outcome, DeclarationCall.outcome_passed (part_declarationCall? call)]
  cases call with
  | withAccess access => rfl
  | withComment comment => rfl
  | markIgnored => rfl

theorem accumulates : Accumulates perform part outcome where
  nil start := by
    simp [outcome]
  singleton := outcome_singleton
  append start callsOn laterOn := by
    simp [outcome]

end FieldCall

/-- A call that changes an event under construction. -/
inductive EventCall
  | withComment (comment : String)
  deriving DecidableEq, Repr

namespace EventCall

def perform (event : Event) : EventCall → Event
  | .withComment comment => event.withComment comment

/-- The part that the call addresses. -/
def part : EventCall → RecordPart
  | .withComment _ => .comment

/-- The call on the declaration of the event. -/
def declarationCall? : EventCall → Option DeclarationCall
  | .withComment comment => some (.withComment comment)

theorem part_declarationCall? (call : EventCall) (passed : DeclarationCall)
    (passes : call.declarationCall? = some passed) :
    passed.part = call.part := by
  cases call with
  | withComment comment => cases passes; rfl

/-- What the calls on each part leave of an event.  No call addresses its
parameter types. -/
def outcome (start : Event) (callsOn : RecordPart → List EventCall) :
    Event where
  declaration :=
    DeclarationCall.outcome start.declaration
      fun place => (callsOn place).filterMap declarationCall?
  parameterTypes := start.parameterTypes

theorem outcome_singleton (start : Event) (call : EventCall) :
    outcome start (addressing part [call]) = perform start call := by
  rw [outcome, DeclarationCall.outcome_passed (part_declarationCall? call)]
  cases call with
  | withComment comment => rfl

theorem accumulates : Accumulates perform part outcome where
  nil start := by
    simp [outcome]
  singleton := outcome_singleton
  append start callsOn laterOn := by
    simp [outcome]

end EventCall

/-- A call that changes a class under construction. -/
inductive ClassCall
  | withScopes (scopes : List String)
  | asValueType
  | withComment (comment : String)
  | withMethod (method : Method)
  | withField (field : Field)
  | withEvent (event : Event)
  deriving DecidableEq, Repr

namespace ClassCall

def perform (owner : Class) : ClassCall → Class
  | .withScopes scopes => owner.withScopes scopes
  | .asValueType => owner.asValueType
  | .withComment comment => owner.withComment comment
  | .withMethod method => owner.withMethod method
  | .withField field => owner.withField field
  | .withEvent event => owner.withEvent event

/-- The part that the call addresses. -/
def part : ClassCall → RecordPart
  | .withScopes _ => .scopes
  | .asValueType => .isValueType
  | .withComment _ => .comment
  | .withMethod _ => .methods
  | .withField _ => .fields
  | .withEvent _ => .events

/-- The call on the declaration of the class. -/
def declarationCall? : ClassCall → Option DeclarationCall
  | .withScopes scopes => some (.withScopes scopes)
  | .withComment comment => some (.withComment comment)
  | _ => none

def method? : ClassCall → Option Method
  | .withMethod method => some method
  | _ => none

def field? : ClassCall → Option Field
  | .withField field => some field
  | _ => none

def event? : ClassCall → Option Event
  | .withEvent event => some event
  | _ => none

theorem part_declarationCall? (call : ClassCall) (passed : DeclarationCall)
    (passes : call.declarationCall? = some passed) :
    passed.part = call.part := by
  cases call with
  | withScopes scopes => cases passes; rfl
  | withComment comment => cases passes; rfl
  | _ => cases passes

/-- What the calls on each part leave of a class. -/
def outcome (start : Class) (callsOn : RecordPart → List ClassCall) :
    Class where
  declaration :=
    DeclarationCall.outcome start.declaration
      fun place => (callsOn place).filterMap declarationCall?
  isValueType :=
    start.isValueType || (callsOn .isValueType).contains .asValueType
  methods := start.methods ++ (callsOn .methods).filterMap method?
  fields := start.fields ++ (callsOn .fields).filterMap field?
  events := start.events ++ (callsOn .events).filterMap event?

theorem outcome_singleton (start : Class) (call : ClassCall) :
    outcome start (addressing part [call]) = perform start call := by
  rw [outcome, DeclarationCall.outcome_passed (part_declarationCall? call)]
  cases call with
  | withScopes scopes =>
      simp [declarationCall?, part, DeclarationCall.perform, perform,
        Class.withScopes]
  | asValueType =>
      simp [declarationCall?, part, perform, Class.asValueType]
  | withComment comment =>
      simp [declarationCall?, part, DeclarationCall.perform, perform,
        Class.withComment]
  | withMethod method =>
      simp [declarationCall?, part, method?, perform, Class.withMethod]
  | withField field =>
      simp [declarationCall?, part, field?, perform, Class.withField]
  | withEvent event =>
      simp [declarationCall?, part, event?, perform, Class.withEvent]

theorem accumulates : Accumulates perform part outcome where
  nil start := by
    simp [outcome]
  singleton := outcome_singleton
  append start callsOn laterOn := by
    simp [outcome, Bool.or_assoc]

end ClassCall

theorem Method.foldl_withParameter
    (method : Method) (parameters : List Parameter) :
    parameters.foldl withParameter method =
      method.withParameters parameters := by
  induction parameters generalizing method with
  | nil => simp [withParameters]
  | cons parameter rest inductionHypothesis =>
      rw [List.foldl_cons, inductionHypothesis]
      simp [withParameters, withParameter]

theorem Method.performAll_withParameters
    (start : Method) (before after : List MethodCall)
    (parameters : List Parameter) :
    start.performAll (before ++ .withParameters parameters :: after) =
      start.performAll
        (before ++ parameters.map .withParameter ++ after) := by
  have oneByOne :=
    foldl_withParameter (start.performAll before) parameters
  simp only [performAll, List.foldl_append, List.foldl_cons, List.foldl_map]
  exact congrArg (after.foldl MethodCall.perform) oneByOne.symm

/-- Whatever a construction starts with and whatever calls it makes, on a
declaration, a method, a field, an event or a class: what it leaves is found
part by part, from the calls on this part alone, and calls on different parts
may be reordered.  Many parameters at once are the same as one after another. -/
theorem calls_keep_to_their_parts :
    KeepsToParts DeclarationCall.perform DeclarationCall.part
        DeclarationCall.outcome ∧
      KeepsToParts MethodCall.perform MethodCall.part MethodCall.outcome ∧
      KeepsToParts FieldCall.perform FieldCall.part FieldCall.outcome ∧
      KeepsToParts EventCall.perform EventCall.part EventCall.outcome ∧
      KeepsToParts ClassCall.perform ClassCall.part ClassCall.outcome ∧
      ∀ (start : Method) (before after : List MethodCall)
        (parameters : List Parameter),
        start.performAll (before ++ .withParameters parameters :: after) =
          start.performAll
            (before ++ parameters.map .withParameter ++ after) := by
  refine ⟨?declaration, ?method, ?field, ?event, ?owner,
    Method.performAll_withParameters⟩
  case declaration => exact DeclarationCall.accumulates.keepsToParts
  case method => exact MethodCall.accumulates.keepsToParts
  case field => exact FieldCall.accumulates.keepsToParts
  case event => exact EventCall.accumulates.keepsToParts
  case owner => exact ClassCall.accumulates.keepsToParts

/-- Two comments and two access levels, mixed with other calls and one kind
after the other: the last of each kind counts in both orders. -/
theorem reordered_calls_on_comparison :
    let start := Method.overloading .equalEqual (.builtin .bool)
    let point : Parameter := ⟨"other", .tag "Point"⟩
    let mixed : List MethodCall :=
      [.withComment "Compares.", .withAccess .privateAccess,
        .withParameter point, .withComment "Compares points.", .markIgnored,
        .withAccess .publicAccess]
    let grouped : List MethodCall :=
      [.markIgnored, .withAccess .privateAccess, .withAccess .publicAccess,
        .withParameter point, .withComment "Compares.",
        .withComment "Compares points."]
    Reordering MethodCall.part mixed grouped ∧
      mixed.foldl MethodCall.perform start =
        grouped.foldl MethodCall.perform start ∧
      mixed.foldl MethodCall.perform start =
        { start with
          declaration :=
            ⟨"operator==", [], .publicAccess, true, some "Compares points."⟩
          parameters := [point] } := by
  intro start point mixed grouped
  have same : Reordering MethodCall.part mixed grouped := by
    intro place
    cases place <;> rfl
  obtain ⟨-, onMethods, -⟩ := calls_keep_to_their_parts
  refine ⟨same, onMethods.reordered start mixed grouped same, ?_⟩
  rw [onMethods.run]
  decide

end ManagedBinding
