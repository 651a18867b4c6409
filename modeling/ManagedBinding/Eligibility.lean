import ManagedBinding.Model.CompilationUnit

/-!
Which members belong in the output. A member is left out for the first reason
that applies to it; constructors that the output dialect provides itself,
special members and everything that is not public are left out.
-/

namespace ManagedBinding

/-- Why a member is left out. -/
inductive Exclusion
  | ignored
  | implicitDefaultConstructor
  | copyOrMoveConstructor
  | destructor
  | equalityOperator
  | conversionOperator
  | notPublic
  deriving DecidableEq, Repr

/-- The wording of a reason in the log. -/
def Exclusion.wording : Exclusion → String
  | .ignored => "ignored"
  | .implicitDefaultConstructor => "implicit default constructor"
  | .copyOrMoveConstructor => "copy or move constructor"
  | .destructor => "destructor"
  | .equalityOperator => "equality operator"
  | .conversionOperator => "conversion operator"
  | .notPublic => "not public"

/-- The first reason to leave a method out of its class. -/
def Method.exclusion? (owner : Class) (method : Method) :
    Option Exclusion :=
  if method.declaration.ignored then
    some .ignored
  else if owner.isValueType && method.isConstructor &&
      method.parameters.isEmpty then
    some .implicitDefaultConstructor
  else if method.isCopyConstructor || method.isMoveConstructor then
    some .copyOrMoveConstructor
  else if method.isDestructor then
    some .destructor
  else if method.operator = some .equalEqual then
    some .equalityOperator
  else if method.isConversionOperator then
    some .conversionOperator
  else if !method.declaration.access.isPublic then
    some .notPublic
  else
    none

/-- The first reason to leave a field out of its class. -/
def Field.exclusion? (field : Field) : Option Exclusion :=
  if field.declaration.ignored then
    some .ignored
  else if !field.declaration.access.isPublic then
    some .notPublic
  else
    none

def Method.isExcluded (owner : Class) (method : Method) : Bool :=
  (method.exclusion? owner).isSome

def Field.isExcluded (field : Field) : Bool :=
  field.exclusion?.isSome

/-- The methods that belong in the output, in order. -/
def Class.eligibleMethods (owner : Class) : List Method :=
  owner.methods.filter fun method => !method.isExcluded owner

/-- The fields that belong in the output, in order. -/
def Class.eligibleFields (owner : Class) : List Field :=
  owner.fields.filter fun field => !field.isExcluded

end ManagedBinding
