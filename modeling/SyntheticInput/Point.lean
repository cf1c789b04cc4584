import SyntheticInput.Text.Numeral

/-!
# Screen positions

* `Point`: a pixel position, each coordinate a 32-bit signed integer.
* `Point.text`: the position as `(x, y)`.
-/

namespace SyntheticInput

/-- A pixel position. -/
structure Point where
  x : Int32
  y : Int32
  deriving Repr, DecidableEq, Inhabited

namespace Point

/-- The position moved by `dx` and `dy`, each coordinate within 32 bits. -/
def move (p : Point) (dx dy : Int32) : Point := ⟨p.x + dx, p.y + dy⟩

/-- The position as `(x, y)`. -/
def text (p : Point) : String :=
  "(" ++ Text.signed p.x.toInt ++ ", " ++ Text.signed p.y.toInt ++ ")"

end Point

end SyntheticInput
