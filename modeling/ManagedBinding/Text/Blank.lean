/-!
White space and trimming. A character is blank when Unicode gives it the
property `White_Space`; trimming removes the blank characters at both ends of
a text and leaves the text between them alone.
-/

namespace ManagedBinding.Text

/-- The code points with the Unicode property `White_Space`, as closed
ranges in ascending order. -/
def blankRanges : List (Nat × Nat) :=
  [(0x9, 0xD), (0x20, 0x20), (0x85, 0x85), (0xA0, 0xA0),
    (0x1680, 0x1680), (0x2000, 0x200A), (0x2028, 0x2029),
    (0x202F, 0x202F), (0x205F, 0x205F), (0x3000, 0x3000)]

/-- The character has the Unicode property `White_Space`. -/
def isBlankChar (char : Char) : Bool :=
  blankRanges.any fun range =>
    decide (range.1 ≤ char.toNat) && decide (char.toNat ≤ range.2)

/-- The text holds no character besides blank ones. -/
def isBlank (text : String) : Bool :=
  text.toList.all isBlankChar

def trimStart (chars : List Char) : List Char :=
  chars.dropWhile isBlankChar

def trimEnd (chars : List Char) : List Char :=
  (trimStart chars.reverse).reverse

def trim (chars : List Char) : List Char :=
  trimEnd (trimStart chars)

end ManagedBinding.Text
