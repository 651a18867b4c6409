import ManagedBinding.Model.CompilationUnit

/-!
A sample unit whose members meet every rule of eligibility.
-/

namespace ManagedBinding.Geometry

def pointReference : QualifiedType :=
  .referenceTo (QualifiedType.tag "gfx::Point").asConst

def otherPoint : Parameter := ⟨"other", pointReference⟩

/-- A value type with constructors, operators, a converted function and a
private field. -/
def point : Class :=
  let float := QualifiedType.builtin .float
  let bool := QualifiedType.builtin .bool
  { declaration :=
      ((Declaration.named "Point").withScopes ["gfx"]).withComment
        "A point in two-dimensional space."
    isValueType := true
    methods :=
      [.constructorOf "Point" .constructor,
        (Method.constructorOf "Point" .constructor).withParameters
          [⟨"x", float⟩, ⟨"y", float⟩],
        (Method.constructorOf "Point" .copyConstructor).withParameter
          otherPoint,
        (Method.overloading .equalEqual bool).withParameter otherPoint,
        (Method.overloading .less bool).withParameter otherPoint,
        (((Method.named "Distance" float).withComment
          "Euclidean distance between this point and another one."
          ).withConversion .toInstanceMethod).withParameters
            [⟨"self", pointReference⟩, otherPoint]]
    fields :=
      [(Field.named "x" float).withComment "Horizontal coordinate.",
        .named "y" float,
        (Field.named "cached_length" float).withAccess .privateAccess]
    events := [] }

/-- A reference type with special members, flagged members and events. -/
def canvas : Class :=
  let int := QualifiedType.builtin .int
  { declaration := (Declaration.named "Canvas").withScopes ["gfx"]
    isValueType := false
    methods :=
      [.constructorOf "Canvas" .constructor,
        (Method.named "~Canvas" .void).withKind .destructor,
        (Method.named "operator bool" (.builtin .bool)).withKind .conversion,
        (Method.named "Resize" .void).withParameters
          [⟨"width", int⟩, ⟨"height", int⟩],
        (Method.named "Flush" .void).withAccess .protectedAccess,
        (Method.named "Create" (.pointerTo (.tag "gfx::Canvas"))
          ).asStatic.withParameter
            ⟨"title", .pointerTo (QualifiedType.builtin .char).asConst⟩,
        (Method.named "Debug" .void).markIgnored]
    fields := [(Field.named "handle" (.pointerTo .void)).markIgnored]
    events :=
      [(Event.named "Resized" [int, int]).withComment
          "Raised after the canvas size changed.",
        .named "Closed" []] }

/-- The classes of `geometry.h`. -/
def unit : CompilationUnit :=
  ((CompilationUnit.ofFile "geometry.h").withClass point).withClass canvas

end ManagedBinding.Geometry
