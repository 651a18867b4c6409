import ManagedBinding.Model.CompilationUnit

/-!
The names under which the values of an enumeration stand in JSON.
-/

namespace ManagedBinding.Schema

/-- All values of an enumeration in their order, and the name of each. -/
class Vocabulary (α : Type) where
  values : List α
  name : α → String

/-- The names of all values, in order. -/
def Vocabulary.names (α : Type) [Vocabulary α] : List String :=
  (Vocabulary.values : List α).map Vocabulary.name

/-- The value with the given name. -/
def Vocabulary.find? {α : Type} [Vocabulary α] (name : String) :
    Option α :=
  Vocabulary.values.find? fun value => Vocabulary.name value == name

instance : Vocabulary Primitive where
  values :=
    [.void, .bool, .char, .uChar, .wChar, .short, .uShort, .int, .uInt,
      .long, .uLong, .longLong, .uLongLong, .float, .double]
  name
    | .void => "void"
    | .bool => "bool"
    | .char => "char"
    | .uChar => "u_char"
    | .wChar => "w_char"
    | .short => "short"
    | .uShort => "u_short"
    | .int => "int"
    | .uInt => "u_int"
    | .long => "long"
    | .uLong => "u_long"
    | .longLong => "long_long"
    | .uLongLong => "u_long_long"
    | .float => "float"
    | .double => "double"

instance : Vocabulary Indirection where
  values := [.pointer, .reference, .rvalueReference]
  name
    | .pointer => "pointer"
    | .reference => "reference"
    | .rvalueReference => "rvalue_reference"

instance : Vocabulary Access where
  values := [.publicAccess, .protectedAccess, .privateAccess]
  name := Access.keyword

instance : Vocabulary MethodKind where
  values :=
    [.normal, .constructor, .copyConstructor, .moveConstructor, .destructor,
      .conversion, .operator]
  name
    | .normal => "normal"
    | .constructor => "constructor"
    | .copyConstructor => "copy_constructor"
    | .moveConstructor => "move_constructor"
    | .destructor => "destructor"
    | .conversion => "conversion"
    | .operator => "operator"

instance : Vocabulary FunctionConversion where
  values := [.none, .toInstanceMethod, .toStaticMethod]
  name
    | .none => "none"
    | .toInstanceMethod => "function_to_instance_method"
    | .toStaticMethod => "function_to_static_method"

instance : Vocabulary Operator where
  values :=
    [.plus, .minus, .star, .slash, .percent, .caret, .amp, .pipe, .tilde,
      .exclaim, .equal, .less, .greater, .plusEqual, .minusEqual,
      .starEqual, .slashEqual, .equalEqual, .exclaimEqual, .lessEqual,
      .greaterEqual, .ampAmp, .pipePipe, .lessLess, .greaterGreater,
      .plusPlus, .minusMinus, .arrow, .call, .subscript]
  name
    | .plus => "plus"
    | .minus => "minus"
    | .star => "star"
    | .slash => "slash"
    | .percent => "percent"
    | .caret => "caret"
    | .amp => "amp"
    | .pipe => "pipe"
    | .tilde => "tilde"
    | .exclaim => "exclaim"
    | .equal => "equal"
    | .less => "less"
    | .greater => "greater"
    | .plusEqual => "plus_equal"
    | .minusEqual => "minus_equal"
    | .starEqual => "star_equal"
    | .slashEqual => "slash_equal"
    | .equalEqual => "equal_equal"
    | .exclaimEqual => "exclaim_equal"
    | .lessEqual => "less_equal"
    | .greaterEqual => "greater_equal"
    | .ampAmp => "amp_amp"
    | .pipePipe => "pipe_pipe"
    | .lessLess => "less_less"
    | .greaterGreater => "greater_greater"
    | .plusPlus => "plus_plus"
    | .minusMinus => "minus_minus"
    | .arrow => "arrow"
    | .call => "call"
    | .subscript => "subscript"

end ManagedBinding.Schema
