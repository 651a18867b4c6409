import ManagedBinding.Eligibility
import ManagedBinding.Proofs.Model.Construction

/-!
# Operators and kinds of methods

A method that overloads an operator has the operator in one field and the kind
of an operator in another one.  Its construction begins with both of them.  The
calls that follow never touch the operator, but one of them gives the method
another kind, whatever the operator says.  So the two fields agree exactly if
the kind that has been given last agrees with the way in which the method has
been begun.  Both facts are read off what calls leave of a method, part by
part.

Eligibility looks at the operator and not at the kind, so it may take a method
of another kind for the equality operator.
-/

namespace ManagedBinding

/-- How the construction of a method begins. -/
inductive MethodOrigin
  | named (name : String) (returnType : QualifiedType)
  | constructorOf (className : String) (kind : MethodKind)
  | overloading (operator : Operator) (returnType : QualifiedType)
  deriving DecidableEq, Repr

namespace MethodOrigin

def method : MethodOrigin → Method
  | .named name returnType => .named name returnType
  | .constructorOf className kind => .constructorOf className kind
  | .overloading operator returnType => .overloading operator returnType

def kind : MethodOrigin → MethodKind
  | .named _ _ => .normal
  | .constructorOf _ kind => kind
  | .overloading _ _ => .operator

def operator? : MethodOrigin → Option Operator
  | .overloading operator _ => some operator
  | _ => none

theorem kind_method (origin : MethodOrigin) :
    origin.method.kind = origin.kind := by
  cases origin with
  | named name returnType => rfl
  | constructorOf className kind => rfl
  | overloading operator returnType => rfl

theorem operator_method (origin : MethodOrigin) :
    origin.method.operator = origin.operator? := by
  cases origin with
  | named name returnType => rfl
  | constructorOf className kind => rfl
  | overloading operator returnType => rfl

end MethodOrigin

/-- A call that changes a method under construction. -/
inductive MethodCall
  | withKind (kind : MethodKind)
  | withParameter (parameter : Parameter)
  | withParameters (parameters : List Parameter)
  | withConversion (conversion : FunctionConversion)
  | withAccess (access : Access)
  | withComment (comment : String)
  | asStatic
  | markIgnored
  deriving DecidableEq, Repr

namespace MethodCall

def perform (method : Method) : MethodCall → Method
  | .withKind kind => method.withKind kind
  | .withParameter parameter => method.withParameter parameter
  | .withParameters parameters => method.withParameters parameters
  | .withConversion conversion => method.withConversion conversion
  | .withAccess access => method.withAccess access
  | .withComment comment => method.withComment comment
  | .asStatic => method.asStatic
  | .markIgnored => method.markIgnored

/-- The kind that the call gives. -/
def kind? : MethodCall → Option MethodKind
  | .withKind kind => some kind
  | _ => none

/-- The part that the call addresses. -/
def part : MethodCall → RecordPart
  | .withKind _ => .kind
  | .withParameter _ => .parameters
  | .withParameters _ => .parameters
  | .withConversion _ => .conversion
  | .withAccess _ => .access
  | .withComment _ => .comment
  | .asStatic => .isStatic
  | .markIgnored => .ignored

def conversion? : MethodCall → Option FunctionConversion
  | .withConversion conversion => some conversion
  | _ => none

/-- The parameters that the call adds. -/
def parameters : MethodCall → List Parameter
  | .withParameter parameter => [parameter]
  | .withParameters parameters => parameters
  | _ => []

/-- The call on the declaration of the method. -/
def declarationCall? : MethodCall → Option DeclarationCall
  | .withAccess access => some (.withAccess access)
  | .withComment comment => some (.withComment comment)
  | .markIgnored => some .markIgnored
  | _ => none

theorem part_declarationCall? (call : MethodCall) (passed : DeclarationCall)
    (passes : call.declarationCall? = some passed) :
    passed.part = call.part := by
  cases call with
  | withAccess access => cases passes; rfl
  | withComment comment => cases passes; rfl
  | markIgnored => cases passes; rfl
  | _ => cases passes

/-- What the calls on each part leave of a method.  No call addresses its
operator or its return type. -/
def outcome (start : Method) (callsOn : RecordPart → List MethodCall) :
    Method where
  declaration :=
    DeclarationCall.outcome start.declaration
      fun place => (callsOn place).filterMap declarationCall?
  kind := lastGiven kind? start.kind (callsOn .kind)
  operator := start.operator
  conversion := lastGiven conversion? start.conversion (callsOn .conversion)
  isStatic := start.isStatic || (callsOn .isStatic).contains .asStatic
  returnType := start.returnType
  parameters := start.parameters ++ (callsOn .parameters).flatMap parameters

theorem outcome_singleton (start : Method) (call : MethodCall) :
    outcome start (addressing part [call]) = perform start call := by
  rw [outcome, DeclarationCall.outcome_passed (part_declarationCall? call)]
  cases call with
  | withKind kind =>
      simp [declarationCall?, part, kind?, perform, Method.withKind]
  | withParameter parameter =>
      simp [declarationCall?, part, parameters, perform, Method.withParameter]
  | withParameters added =>
      simp [declarationCall?, part, parameters, perform,
        Method.withParameters]
  | withConversion conversion =>
      simp [declarationCall?, part, conversion?, perform,
        Method.withConversion]
  | withAccess access =>
      simp [declarationCall?, part, DeclarationCall.perform, perform,
        Method.withAccess]
  | withComment comment =>
      simp [declarationCall?, part, DeclarationCall.perform, perform,
        Method.withComment]
  | asStatic =>
      simp [declarationCall?, part, perform, Method.asStatic]
  | markIgnored =>
      simp [declarationCall?, part, DeclarationCall.perform, perform,
        Method.markIgnored]

theorem accumulates : Accumulates perform part outcome where
  nil start := by
    simp [outcome]
  singleton := outcome_singleton
  append start callsOn laterOn := by
    simp [outcome, Bool.or_assoc]

theorem kind?_of_part_ne (call : MethodCall) (elsewhere : call.part ≠ .kind) :
    call.kind? = none := by
  cases call with
  | withKind kind => exact absurd rfl elsewhere
  | _ => rfl

/-- The kind that the calls leave: the one that has been given last, or else the
one at the start. -/
def lastKind (start : MethodKind) (calls : List MethodCall) : MethodKind :=
  (calls.filterMap kind?).getLastD start

end MethodCall

namespace Method

/-- Perform the calls one after another. -/
def performAll (method : Method) (calls : List MethodCall) : Method :=
  calls.foldl MethodCall.perform method

theorem performAll_eq_outcome (method : Method) (calls : List MethodCall) :
    method.performAll calls =
      MethodCall.outcome method (addressing MethodCall.part calls) :=
  MethodCall.accumulates.foldl_eq method calls

theorem operator_performAll (method : Method) (calls : List MethodCall) :
    (method.performAll calls).operator = method.operator := by
  rw [performAll_eq_outcome]
  rfl

theorem kind_performAll (method : Method) (calls : List MethodCall) :
    (method.performAll calls).kind =
      MethodCall.lastKind method.kind calls := by
  rw [performAll_eq_outcome]
  exact lastGiven_addressing MethodCall.kind?_of_part_ne method.kind calls

/-- The method names an operator exactly if it is of that kind. -/
def OperatorAgrees (method : Method) : Prop :=
  method.operator.isSome = true ↔ method.kind = .operator

instance (method : Method) : Decidable method.OperatorAgrees :=
  inferInstanceAs
    (Decidable (method.operator.isSome = true ↔ method.kind = .operator))

/-- The rule on the equality operator is the first one that applies if none of
the rules in front of it does.  It asks for the operator only. -/
theorem exclusion?_eq_equalityOperator_iff (owner : Class) (method : Method) :
    method.exclusion? owner = some .equalityOperator ↔
      method.operator = some .equalEqual ∧
        method.kind ∉
          [.copyConstructor, .moveConstructor, .destructor] ∧
        method.declaration.ignored = false ∧
        ¬ (owner.isValueType = true ∧ method.isConstructor = true ∧
          method.parameters = []) := by
  rw [exclusion?]
  -- One case for each rule: in front of this one, at it, and behind it.
  grind [isCopyConstructor, isMoveConstructor, isDestructor]

/-- A method keeps the operator with which it has been begun and has the kind
that has been given last.  So it names an operator exactly if it is of that
kind, provided that the last kind says the same of it as its beginning.  The
rule on the equality operator meets a method of another kind exactly if the
method has been begun as `==`, the kind given last is one that no rule in front
leaves out, and no other rule in front applies. -/
theorem operator_agrees_iff_last_kind_agrees
    (origin : MethodOrigin) (calls : List MethodCall) :
    let built := origin.method.performAll calls
    let kind := MethodCall.lastKind origin.kind calls
    built.operator = origin.operator? ∧ built.kind = kind ∧
      (built.OperatorAgrees ↔
        (origin.operator?.isSome = true ↔ kind = .operator)) ∧
      ∀ owner : Class,
        (built.exclusion? owner = some .equalityOperator ∧
            built.kind ≠ .operator) ↔
          (origin.operator? = some .equalEqual ∧
            kind ∈ [.normal, .constructor, .conversion] ∧
            built.declaration.ignored = false ∧
            ¬ (owner.isValueType = true ∧ kind = .constructor ∧
              built.parameters = [])) := by
  intro built kind
  have sameOperator : built.operator = origin.operator? :=
    (operator_performAll origin.method calls).trans origin.operator_method
  have sameKind : built.kind = kind := by
    have givenLast := kind_performAll origin.method calls
    rw [origin.kind_method] at givenLast
    exact givenLast
  refine ⟨sameOperator, sameKind, ?_, ?_⟩
  · rw [OperatorAgrees, sameOperator, sameKind]
  · intro owner
    rw [exclusion?_eq_equalityOperator_iff, isConstructor, sameOperator,
      sameKind]
    cases kind <;> simp

/-- An overloaded `==` that is made a normal method keeps its operator and is
left out as the equality operator.  A method that is given the kind of an
operator has none. -/
theorem given_kind_leaves_operator_alone :
    let bool := QualifiedType.builtin .bool
    let equality :=
      (MethodOrigin.overloading .equalEqual bool).method.performAll
        [.withKind .normal]
    let unnamed :=
      (MethodOrigin.named "Compare" bool).method.performAll
        [.withKind .operator]
    equality.operator = some .equalEqual ∧ equality.kind = .normal ∧
      ¬ equality.OperatorAgrees ∧
      equality.exclusion? (.named "Widget") = some .equalityOperator ∧
      unnamed.operator = none ∧ unnamed.kind = .operator ∧
      ¬ unnamed.OperatorAgrees := by
  decide

end Method

end ManagedBinding
