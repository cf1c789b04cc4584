/-!
# Double-precision numbers as exact fractions

* `Magnitude`: a nonnegative number `mantissa · 2 ^ exponent`.
* `magnitude`: the absolute value of a finite double.
* `nearestBits`: the double nearest to a fraction, ties to the even neighbour, as its bits.
-/

namespace SyntheticInput.Decimal

/-- The number `mantissa · 2 ^ exponent`. -/
structure Magnitude where
  mantissa : Nat
  exponent : Int
  deriving Repr, DecidableEq

/-- The bit of the sign: `2 ^ 63`. -/
def signBit : Nat := 0x8000000000000000

/-- The sign bit is set. -/
def isNegative (x : Float) : Bool := x.toBits >>> 63 == 1

/-- The leading bit of a normal number, which its bits leave out: `2 ^ 52`. -/
def hiddenBit : Nat := 0x10000000000000

/-- The absolute value of a finite double: the smallest exponent for a number below the normal
range, the hidden bit restored for the others. -/
def magnitude (x : Float) : Magnitude :=
  let bits := x.toBits.toNat
  let field : Nat := bits / hiddenBit % 2048
  let fraction : Nat := bits % hiddenBit
  if field = 0 then ⟨fraction, -1074⟩ else ⟨fraction + hiddenBit, (field : Int) - 1075⟩

/-- The numerator of a magnitude over the denominator `Magnitude.den`. -/
def Magnitude.num (m : Magnitude) : Nat := m.mantissa * Nat.pow 2 m.exponent.toNat

/-- The power of two below the numerator `Magnitude.num`. -/
def Magnitude.den (m : Magnitude) : Nat := Nat.pow 2 (-m.exponent).toNat

/-- `num / den` rounded to a natural number, a half going to the even neighbour. -/
def divideToEven (num den : Nat) : Nat :=
  let q := num / den
  let r := num % den
  if 2 * r < den then q else if den < 2 * r then q + 1 else q + q % 2

/-- The exponent of the last place that a double near `num / den` has: fifty-two below the leading
bit, but never under the smallest. -/
def lastPlace (num den : Nat) : Int :=
  let guess : Int := (num.log2 : Int) - den.log2
  let tooHigh := num * Nat.pow 2 (-guess).toNat < den * Nat.pow 2 guess.toNat
  let leading := if tooHigh then guess - 1 else guess
  max (leading - 52) (-1074)

/-- The bits of infinity, one above those of the largest finite double. -/
def infinityBits : Nat := 0x7FF0000000000000

/-- The bits of the double nearest to `num / den`, ties to the even neighbour, infinity beyond
the largest. A number of last places below `2 ^ 53` joins the exponent field by plain addition, so
a carry into the next power of two needs no case of its own. -/
def nearestBits (num den : Nat) : Nat :=
  if num = 0 then 0
  else
    let u := lastPlace num den
    let q := divideToEven (num * Nat.pow 2 (-u).toNat) (den * Nat.pow 2 u.toNat)
    min infinityBits ((u + 1074).toNat * hiddenBit + q)

/-- The double with the given sign nearest to `num / den`. -/
def nearest (negative : Bool) (num den : Nat) : Float :=
  Float.ofBits (.ofNat (nearestBits num den + if negative then signBit else 0))

/-- The infinity with the given sign, to which every number rounds that is too large. -/
def infinity (negative : Bool) : Float :=
  Float.ofBits (.ofNat (infinityBits + if negative then signBit else 0))

end SyntheticInput.Decimal
