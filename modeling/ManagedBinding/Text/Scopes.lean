/-!
Paths of names with `::` between them.
-/

namespace ManagedBinding.Text

/-- Cut a path at every `::`, from the left; a third colon in a row belongs to
the segment behind the separator. -/
def splitScopes : List Char → List (List Char)
  | [] => [[]]
  | ':' :: ':' :: rest => [] :: splitScopes rest
  | char :: rest =>
      match splitScopes rest with
      | [] => [[char]]
      | first :: others => (char :: first) :: others

end ManagedBinding.Text
