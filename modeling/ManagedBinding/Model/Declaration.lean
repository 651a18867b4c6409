/-!
What all named declarations share: a name inside scopes, an access level, a
flag that drops the declaration from the output, and a comment.
-/

namespace ManagedBinding

/-- Who may use a member. -/
inductive Access
  | publicAccess
  | protectedAccess
  | privateAccess
  deriving DecidableEq, Repr

/-- The keyword of an access level. -/
def Access.keyword : Access → String
  | .publicAccess => "public"
  | .protectedAccess => "protected"
  | .privateAccess => "private"

/-- Everyone may use the member. -/
def Access.isPublic (access : Access) : Bool :=
  access == .publicAccess

/-- Name, place and flags of a declaration. The scopes run from the outermost
one inwards; the comment is without comment marks. -/
structure Declaration where
  name : String
  scopes : List String
  access : Access
  ignored : Bool
  comment : Option String
  deriving DecidableEq, Repr

namespace Declaration

/-- A public declaration outside of all scopes. -/
def named (name : String) : Declaration :=
  ⟨name, [], .publicAccess, false, none⟩

def withScopes (declaration : Declaration) (scopes : List String) :
    Declaration :=
  { declaration with scopes := scopes }

def withAccess (declaration : Declaration) (access : Access) :
    Declaration :=
  { declaration with access := access }

def withComment (declaration : Declaration) (comment : String) :
    Declaration :=
  { declaration with comment := some comment }

def markIgnored (declaration : Declaration) : Declaration :=
  { declaration with ignored := true }

/-- The scopes and the name, joined with `::`. -/
def qualifiedName (declaration : Declaration) : String :=
  "::".intercalate (declaration.scopes ++ [declaration.name])

end Declaration

end ManagedBinding
