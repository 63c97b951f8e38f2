import Chip8.Text.Numeral

/-!
# Written shapes

The extents of a nested array as a bracketed list. A single extent keeps a comma, which tells it
from a number in brackets.
-/

namespace Chip8.Text

/-- `()`, `(16,)`, `(64, 32)` and so on. -/
def shape : List Nat → String
  | [extent] => "(" ++ digits extent ++ ",)"
  | extents => "(" ++ ", ".intercalate (extents.map digits) ++ ")"

end Chip8.Text
