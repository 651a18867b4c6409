import ManagedBinding.Model.Member

/-!
Classes, and the compilation units that declare them.
-/

namespace ManagedBinding

/-- A class. The instances of a value type are copied, and the output dialect
gives it a default constructor of its own. -/
structure Class where
  declaration : Declaration
  isValueType : Bool
  methods : List Method
  fields : List Field
  events : List Event
  deriving DecidableEq, Repr

namespace Class

/-- A public reference type without members. -/
def named (name : String) : Class :=
  ⟨.named name, false, [], [], []⟩

def withScopes (owner : Class) (scopes : List String) : Class :=
  { owner with declaration := owner.declaration.withScopes scopes }

def asValueType (owner : Class) : Class :=
  { owner with isValueType := true }

def withComment (owner : Class) (comment : String) : Class :=
  { owner with declaration := owner.declaration.withComment comment }

def withMethod (owner : Class) (method : Method) : Class :=
  { owner with methods := owner.methods ++ [method] }

def withField (owner : Class) (field : Field) : Class :=
  { owner with fields := owner.fields ++ [field] }

def withEvent (owner : Class) (event : Event) : Class :=
  { owner with events := owner.events ++ [event] }

def name (owner : Class) : String := owner.declaration.name

end Class

/-- The classes that one native header declares. -/
structure CompilationUnit where
  fileName : String
  classes : List Class
  deriving DecidableEq, Repr

namespace CompilationUnit

def ofFile (fileName : String) : CompilationUnit := ⟨fileName, []⟩

def withClass (unit : CompilationUnit) (owner : Class) : CompilationUnit :=
  { unit with classes := unit.classes ++ [owner] }

end CompilationUnit

end ManagedBinding
