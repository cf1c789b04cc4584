import SyntheticInput.Decimal.Binary
import SyntheticInput.Text.Numeral

/-!
# The fewest decimal digits that read back

Of the decimals that round to a finite double, the ones with the fewest digits are kept, and of
those the nearest to the double; two that are equally near give way to the larger.

* `shortest`: digits and position of that decimal.
* `plain`: the number without an exponent, however many zeros that takes.
* `compact`: positional from a ten-thousandth up to 10^16, with an exponent outside.
-/

namespace SyntheticInput.Decimal

open Text (decimal signed digitsBefore)

/-- The digits of `digits`, read as an integer, times `10 ^ exponent`. -/
structure Digits where
  digits : Nat
  exponent : Int
  deriving Repr, DecidableEq

/-- The closed or open interval of fractions `lo / den` to `hi / den` that round to a double, with
the double itself at `mid / den`. -/
structure Interval where
  lo : Nat
  mid : Nat
  hi : Nat
  den : Nat
  ends : Bool

/-- The fractions that round to the double `m`. The gap below a power of two is half the gap above
it; the ends belong to the interval when the mantissa is even. -/
def Interval.of (m : Magnitude) : Interval :=
  let unit := Nat.pow 2 m.exponent.toNat
  let below := if m.mantissa = hiddenBit ∧ -1074 < m.exponent then 1 else 2
  { lo := (4 * m.mantissa - below) * unit
    mid := 4 * m.mantissa * unit
    hi := (4 * m.mantissa + 2) * unit
    den := 4 * m.den
    ends := m.mantissa % 2 == 0 }

/-- The fraction `num / den` lies in the interval. -/
def Interval.holds (i : Interval) (num den : Nat) : Bool :=
  if i.ends then i.lo * den ≤ num * i.den && num * i.den ≤ i.hi * den
  else i.lo * den < num * i.den && num * i.den < i.hi * den

/-- The multiple of `10 ^ e` in the interval that is nearest to its double, the larger of two. -/
def Interval.gridPoint? (i : Interval) (e : Int) : Option Nat :=
  let up := Nat.pow 10 e.toNat
  let down := Nat.pow 10 (-e).toNat
  let d := i.mid * down / (i.den * up)
  let r := i.mid * down % (i.den * up)
  let low := i.holds (d * up) down
  let high := i.holds ((d + 1) * up) down
  if high && (!low || i.den * up ≤ 2 * r) then some (d + 1)
  else if low then some d
  else none

/-- Tries the grids `10 ^ e, 10 ^ (e - 1), …` and takes the first that meets the interval. -/
def Interval.search (i : Interval) : Nat → Int → Digits
  | 0, e => ⟨i.mid * Nat.pow 10 (-e).toNat / (i.den * Nat.pow 10 e.toNat), e⟩
  | fuel + 1, e =>
    match i.gridPoint? e with
    | some d => ⟨d, e⟩
    | none => i.search fuel (e - 1)

/-- The number of decimal digits of a natural number. -/
def digitCount (n : Nat) : Nat := (digitsBefore 10 n []).length

/-- Drops the zeros at the end of the digits. -/
def Digits.normalize (d : Digits) : Digits :=
  let cs := (digitsBefore 10 d.digits []).reverse
  let zeros := (cs.takeWhile (· = '0')).length
  ⟨d.digits / Nat.pow 10 zeros, d.exponent + zeros⟩

/-- The shortest decimal that reads back as the positive double `m`. The first grid tried is
coarser than the number, and seventeen digits always suffice. -/
def shortest (m : Magnitude) : Digits :=
  let e : Int := (digitCount m.num : Int) - digitCount m.den + 1
  ((Interval.of m).search 20 e).normalize

/-- Digits in positional notation, with at least `places` digits behind the point. -/
def Digits.positional (d : Digits) (places : Nat) : String :=
  let cs := digitsBefore 10 d.digits []
  let whole : List Char := cs ++ List.replicate d.exponent.toNat '0'
  let behind := (-d.exponent).toNat
  let padded := List.replicate (behind + 1 - whole.length) '0' ++ whole
  let front := padded.take (padded.length - behind)
  let back := padded.drop (padded.length - behind)
  let back := back ++ List.replicate (places - back.length) '0'
  String.ofList (if back.isEmpty then front else front ++ '.' :: back)

/-- Digits in scientific notation: one digit before the point, the exponent behind an `e`. -/
def Digits.scientific (d : Digits) : String :=
  let cs := digitsBefore 10 d.digits []
  let power := d.exponent + (cs.length - 1 : Nat)
  let tail := cs.drop 1
  String.ofList (cs.take 1 ++ if tail.isEmpty then [] else '.' :: tail) ++ "e" ++ signed power

/-- The text of the absolute value, by the given rule for positive numbers and with `zero` for
zero, behind its sign; a number that is none has no sign. -/
def withSign (x : Float) (zero : String) (positive : Magnitude → String) : String :=
  if x.isNaN then "NaN"
  else
    let body :=
      if x.isInf then "inf"
      else if (magnitude x).mantissa = 0 then zero
      else positive (magnitude x)
    if isNegative x then "-" ++ body else body

/-- The shortest decimal without an exponent: `50`, `0.1`, `100000000000000000000000`. -/
def plain (x : Float) : String := withSign x "0" fun m => (shortest m).positional 0

/-- The shortest decimal, at least one digit behind the point; below a ten-thousandth and from
10^16 on with an exponent: `50.0`, `0.1`, `1e23`. -/
def compact (x : Float) : String :=
  withSign x "0.0" fun m =>
    let d := shortest m
    if x.abs < 1e-4 || 1e16 ≤ x.abs then d.scientific else d.positional 1

end SyntheticInput.Decimal
