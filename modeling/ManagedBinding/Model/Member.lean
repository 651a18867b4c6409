import ManagedBinding.Model.Declaration
import ManagedBinding.Model.NativeType
import ManagedBinding.Model.Operator

/-!
The members of a class: methods, fields and events. Each of them has a
declaration of its own and passes changes of access, comment and the ignored
flag on to it.
-/

namespace ManagedBinding

/-- A named parameter; an empty name stands for none. -/
structure Parameter where
  name : String
  type : QualifiedType
  deriving DecidableEq, Repr

/-- What kind of member function a method is. -/
inductive MethodKind
  | normal
  | constructor
  | copyConstructor
  | moveConstructor
  | destructor
  | conversion
  | operator
  deriving DecidableEq, Repr

/-- How a free function has become a method. An instance method made from a
function takes its receiver as the first parameter. -/
inductive FunctionConversion
  | none
  | toInstanceMethod
  | toStaticMethod
  deriving DecidableEq, Repr

structure Method where
  declaration : Declaration
  kind : MethodKind
  operator : Option Operator
  conversion : FunctionConversion
  isStatic : Bool
  returnType : QualifiedType
  parameters : List Parameter
  deriving DecidableEq, Repr

namespace Method

/-- A public method without parameters and without special meaning. -/
def named (name : String) (returnType : QualifiedType) : Method :=
  ⟨.named name, .normal, none, .none, false, returnType, []⟩

def withKind (method : Method) (kind : MethodKind) : Method :=
  { method with kind := kind }

/-- A method of the given kind that is named after its class and returns
nothing. -/
def constructorOf (className : String) (kind : MethodKind) : Method :=
  (named className .void).withKind kind

/-- A method that overloads an operator. -/
def overloading (operator : Operator) (returnType : QualifiedType) :
    Method :=
  { (named ("operator" ++ operator.token) returnType).withKind .operator with
    operator := some operator }

def withParameter (method : Method) (parameter : Parameter) : Method :=
  { method with parameters := method.parameters ++ [parameter] }

def withParameters (method : Method) (parameters : List Parameter) :
    Method :=
  { method with parameters := method.parameters ++ parameters }

/-- Record how a function has become this method. -/
def withConversion (method : Method) (conversion : FunctionConversion) :
    Method :=
  { method with conversion := conversion }

def withAccess (method : Method) (access : Access) : Method :=
  { method with declaration := method.declaration.withAccess access }

def withComment (method : Method) (comment : String) : Method :=
  { method with declaration := method.declaration.withComment comment }

def asStatic (method : Method) : Method :=
  { method with isStatic := true }

def markIgnored (method : Method) : Method :=
  { method with declaration := method.declaration.markIgnored }

def name (method : Method) : String := method.declaration.name

/-- The method is a plain, a copy or a move constructor. -/
def isConstructor (method : Method) : Bool :=
  method.kind == .constructor || method.kind == .copyConstructor ||
    method.kind == .moveConstructor

def isCopyConstructor (method : Method) : Bool :=
  method.kind == .copyConstructor

def isMoveConstructor (method : Method) : Bool :=
  method.kind == .moveConstructor

def isDestructor (method : Method) : Bool :=
  method.kind == .destructor

def isConversionOperator (method : Method) : Bool :=
  method.kind == .conversion

/-- The first parameter of the method is its receiver. -/
def hasReceiverParameter (method : Method) : Bool :=
  method.conversion == .toInstanceMethod

end Method

structure Field where
  declaration : Declaration
  type : QualifiedType
  deriving DecidableEq, Repr

namespace Field

/-- A public field. -/
def named (name : String) (type : QualifiedType) : Field :=
  ⟨.named name, type⟩

def withAccess (field : Field) (access : Access) : Field :=
  { field with declaration := field.declaration.withAccess access }

def withComment (field : Field) (comment : String) : Field :=
  { field with declaration := field.declaration.withComment comment }

def markIgnored (field : Field) : Field :=
  { field with declaration := field.declaration.markIgnored }

def name (field : Field) : String := field.declaration.name

end Field

/-- An event; the parameters of its handlers have types and no names. -/
structure Event where
  declaration : Declaration
  parameterTypes : List QualifiedType
  deriving DecidableEq, Repr

namespace Event

/-- A public event. -/
def named (name : String) (parameterTypes : List QualifiedType) : Event :=
  ⟨.named name, parameterTypes⟩

def withComment (event : Event) (comment : String) : Event :=
  { event with declaration := event.declaration.withComment comment }

def name (event : Event) : String := event.declaration.name

/-- The parameters of a handler: the types in order, under the names `_0`,
`_1` and so on. -/
def handlerParameters (event : Event) : List Parameter :=
  event.parameterTypes.mapIdx fun index type =>
    ⟨"_" ++ toString index, type⟩

end Event

end ManagedBinding
