/-!
Native types and their spelling. A qualified type is a type with an optional
`const`; pointers and references lead to a qualified type of their own.
-/

namespace ManagedBinding

inductive Primitive
  | void
  | bool
  | char
  | uChar
  | wChar
  | short
  | uShort
  | int
  | uInt
  | long
  | uLong
  | longLong
  | uLongLong
  | float
  | double
  deriving DecidableEq, Repr

/-- The ways in which a type leads to another one. -/
inductive Indirection
  | pointer
  | reference
  | rvalueReference
  deriving DecidableEq, Repr

/-- A type without its outermost qualifier. A tag is a class, a structure or
an enumeration by its qualified name; an indirection carries its target and
whether the target is `const`. -/
inductive NativeType
  | builtin (primitive : Primitive)
  | tag (name : String)
  | indirect
      (via : Indirection) (target : NativeType) (targetIsConst : Bool)
  deriving DecidableEq, Repr

/-- A type together with its qualifier. -/
structure QualifiedType where
  type : NativeType
  isConst : Bool
  deriving DecidableEq, Repr

/-- The type is a pointer or a reference. -/
def NativeType.isIndirection : NativeType → Bool
  | .indirect _ _ _ => true
  | _ => false

namespace QualifiedType

def builtin (primitive : Primitive) : QualifiedType :=
  ⟨.builtin primitive, false⟩

def void : QualifiedType := builtin .void

def tag (name : String) : QualifiedType := ⟨.tag name, false⟩

/-- An unqualified pointer or reference to a type. -/
def indirect (via : Indirection) (target : QualifiedType) :
    QualifiedType :=
  ⟨.indirect via target.type target.isConst, false⟩

def pointerTo (target : QualifiedType) : QualifiedType :=
  indirect .pointer target

def referenceTo (target : QualifiedType) : QualifiedType :=
  indirect .reference target

def rvalueReferenceTo (target : QualifiedType) : QualifiedType :=
  indirect .rvalueReference target

def asConst (type : QualifiedType) : QualifiedType :=
  { type with isConst := true }

end QualifiedType

/-- The keywords of a builtin type. -/
def Primitive.spelling : Primitive → String
  | .void => "void"
  | .bool => "bool"
  | .char => "char"
  | .uChar => "unsigned char"
  | .wChar => "wchar_t"
  | .short => "short"
  | .uShort => "unsigned short"
  | .int => "int"
  | .uInt => "unsigned int"
  | .long => "long"
  | .uLong => "unsigned long"
  | .longLong => "long long"
  | .uLongLong => "unsigned long long"
  | .float => "float"
  | .double => "double"

/-- The mark behind the target of an indirection. -/
def Indirection.mark : Indirection → String
  | .pointer => "*"
  | .reference => "&"
  | .rvalueReference => "&&"

/-- Add `const` to the spelling of a type: behind an indirection, which it
then qualifies itself, and in front of any other type. -/
def qualifySpelling
    (isConst isIndirection : Bool) (spelling : String) : String :=
  if isConst then
    if isIndirection then spelling ++ " const" else "const " ++ spelling
  else
    spelling

/-- The native spelling of a type. -/
def NativeType.spelling : NativeType → String
  | .builtin primitive => primitive.spelling
  | .tag name => name
  | .indirect via target targetIsConst =>
      qualifySpelling targetIsConst target.isIndirection target.spelling ++
        via.mark

/-- The native spelling of a qualified type. -/
def QualifiedType.spelling (type : QualifiedType) : String :=
  qualifySpelling type.isConst type.type.isIndirection type.type.spelling

end ManagedBinding
