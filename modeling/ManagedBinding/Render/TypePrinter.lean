import ManagedBinding.Model.Member
import ManagedBinding.Render.Identifier

/-!
How types and parameters are spelled in the output. The renderer knows no
spelling of its own and asks the printer that it is given.
-/

namespace ManagedBinding

/-- The spelling of types and parameters. -/
structure TypePrinter where
  printType : QualifiedType → String
  printParameter : Parameter → String

namespace TypePrinter

/-- Parameters by the spelling of their type, with the name behind it if
there is one. -/
def ofTypes (printType : QualifiedType → String) : TypePrinter where
  printType := printType
  printParameter := fun parameter =>
    let name := emittedIdentifier parameter.name
    if name.isEmpty then
      printType parameter.type
    else
      printType parameter.type ++ " " ++ name

/-- Every type by its native spelling. -/
def native : TypePrinter := ofTypes QualifiedType.spelling

/-- All parameters, with commas between them. -/
def parameterList (printer : TypePrinter) (parameters : List Parameter) :
    String :=
  ", ".intercalate (parameters.map printer.printParameter)

/-- The parameters of a method, without its receiver. -/
def methodParameters (printer : TypePrinter) (method : Method) : String :=
  let elided := if method.hasReceiverParameter then 1 else 0
  printer.parameterList (method.parameters.drop elided)

end TypePrinter

end ManagedBinding
