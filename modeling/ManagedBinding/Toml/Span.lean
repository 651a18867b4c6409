/-!
Places in a source text, as byte offsets into its UTF-8 form. Reading goes
along the characters that are still to come, so a place is known by the bytes
that remain.
-/

namespace ManagedBinding.Toml

/-- The bytes from `start` up to, and without, `stop`. -/
structure Span where
  start : Nat
  stop : Nat
  deriving DecidableEq, Repr

/-- The length of a text in bytes. -/
def byteLength (chars : List Char) : Nat :=
  chars.foldl (fun length char => length + char.utf8Size) 0

/-- The span of what has been read when `before` was still to come at its
start and `after` is still to come at its end, in a text of `size` bytes. -/
def Span.between (size : Nat) (before after : List Char) : Span :=
  ⟨size - byteLength before, size - byteLength after⟩

end ManagedBinding.Toml
