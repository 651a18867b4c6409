/-!
The identifiers of the output. Every native name, a reserved word of the
output dialect or an empty name included, is emitted as it stands.
-/

namespace ManagedBinding

/-- The identifier under which a native name is emitted. -/
def emittedIdentifier (name : String) : String := name

/-- A name is its own identifier. -/
@[simp] theorem emittedIdentifier_eq (name : String) :
    emittedIdentifier name = name :=
  rfl

end ManagedBinding
