/-!
# The arithmetic of a path

Positions along a path are computed in any number type with the four operations, a floor, a
comparison and a cast to 32 bits: in doubles when a trajectory runs, in exact fractions when its
rounding is reasoned about.

* `Scalar`: the operations.
* `roundEven`: the nearest whole number, a half going to the even neighbour.
* `smoothstep`: easing with no speed at either end.
* `axisPosition`: a coordinate of the path.
* `correction`: the whole step that brings the sum of steps closest to the path.
-/

namespace SyntheticInput

/-- Number types in which a path can be computed. -/
class Scalar (κ : Type) extends Add κ, Sub κ, Mul κ, Div κ where
  /-- A step index. -/
  ofIndex : UInt64 → κ
  /-- A distance in pixels. -/
  ofOffset : Int → κ
  /-- The greatest whole number that is not above. -/
  floor : κ → κ
  /-- Strict comparison. -/
  below : κ → κ → Bool
  /-- A whole number in 32 bits, or the closest number there is. -/
  toInt32 : κ → Int32

instance : Scalar Float where
  ofIndex := UInt64.toFloat
  ofOffset := Float.ofInt
  floor := Float.floor
  below a b := a < b
  toInt32 := Float.toInt32

namespace Scalar

variable {κ : Type} [Scalar κ]

/-- The nearest whole number; a half goes to the even neighbour. -/
def roundEven (x : κ) : κ :=
  let down := floor x
  let part := x - down
  let half : κ := ofIndex 1 / ofIndex 2
  if below part half then down
  else if below half part then down + ofIndex 1
  else if below (floor (down / ofIndex 2) * ofIndex 2) down then down + ofIndex 1
  else down

/-- Easing from zero to one with no speed at either end. -/
def smoothstep (t : κ) : κ := t * t * (ofIndex 3 - ofIndex 2 * t)

/-- The part of the way that is done after step `index` of `intervals`. -/
def progress (index intervals : UInt64) : κ := smoothstep (ofIndex index / ofIndex intervals)

/-- A coordinate of the path, relative to its start: the eased part of the whole offset and a
deviation to the side. -/
def axisPosition (total ease deviation : κ) : κ := total * ease + deviation

/-- The whole step that brings the sum of steps closest to `position`. -/
def correction (position emitted : κ) : κ := roundEven (position - emitted)

end Scalar

end SyntheticInput
