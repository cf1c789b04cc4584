import SyntheticInput.Decimal.Shortest

/-!
# Decimals with a fixed number of places

* `fixed`: the exact value of a double rounded to a number of places, a half going to the even
  neighbour.
-/

namespace SyntheticInput.Decimal

/-- The double rounded to `places` digits behind the point, all of them written. -/
def fixed (places : Nat) (x : Float) : String :=
  let rounded (m : Magnitude) : Digits :=
    ⟨divideToEven (m.num * Nat.pow 10 places) m.den, -(places : Int)⟩
  withSign x ((Digits.mk 0 0).positional places) fun m => (rounded m).positional places

end SyntheticInput.Decimal
