import ManagedBinding.Model.Declaration

/-!
The options of a generator run.
-/

namespace ManagedBinding

/-- What the output is wrapped in. The namespace is kept, but has no effect,
while wrapping is off. -/
structure Options where
  generateLibraryNamespace : Bool
  outputNamespace : String
  deriving DecidableEq, Repr

namespace Options

def standard : Options := ⟨false, ""⟩

def withLibraryNamespace (_ : Options) (name : String) : Options :=
  ⟨true, name⟩

/-- The namespace around the output, if wrapping is on. -/
def libraryNamespace? (options : Options) : Option String :=
  if options.generateLibraryNamespace then
    some options.outputNamespace
  else
    none

/-- The name of a declaration as the generated code refers to it, inside the
library namespace if there is one. -/
def qualifiedIdentifier
    (options : Options) (declaration : Declaration) : String :=
  match options.libraryNamespace? with
  | some name => name ++ "::" ++ declaration.qualifiedName
  | none => declaration.qualifiedName

end Options

end ManagedBinding
