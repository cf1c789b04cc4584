import SyntheticInput.Decimal.Binary
import SyntheticInput.Text.AsciiCase
import SyntheticInput.Text.Numeral

/-!
# Reading numbers

The whole text has to be the number: no blank, no digit separator, ASCII digits only.

* `readNat?`: digits with an optional plus sign.
* `readInt?`: digits with an optional sign.
* `readUInt64?`, `readInt32?`: the same within the range of the type.
* `readFloat?`: decimal floating-point text, rounded to the nearest double.
-/

namespace SyntheticInput.Decimal

open Text (isDigitOf digitsValue foldAscii)

/-- The character is an ASCII decimal digit. -/
def isDecimalDigit (c : Char) : Bool := isDigitOf 10 c

/-- One or more decimal digits. -/
def readDigits? (cs : List Char) : Option Nat :=
  if !cs.isEmpty && cs.all isDecimalDigit then some (digitsValue 10 cs) else none

/-- Splits off a sign: whether it is a minus, and the rest. -/
def splitSign : List Char → Bool × List Char
  | '-' :: cs => (true, cs)
  | '+' :: cs => (false, cs)
  | cs => (false, cs)

/-- Digits behind an optional plus sign. -/
def readNat? (cs : List Char) : Option Nat :=
  match cs with
  | '+' :: cs => readDigits? cs
  | cs => readDigits? cs

/-- Digits behind an optional sign. -/
def readInt? (cs : List Char) : Option Int :=
  let (negative, ds) := splitSign cs
  (readDigits? ds).map fun n => if negative then -(n : Int) else n

/-- A natural number below `2 ^ 64`. -/
def readUInt64? (s : String) : Option UInt64 := do
  let n ← readNat? s.toList
  if n < UInt64.size then some (.ofNat n) else none

/-- An integer from `-2 ^ 31` to `2 ^ 31 - 1`. -/
def readInt32? (s : String) : Option Int32 := do
  let i ← readInt? s.toList
  if -0x80000000 ≤ i ∧ i < 0x80000000 then some (.ofInt i) else none

/-- The double nearest to `digits · 10 ^ exponent`. A number far outside the range of doubles is
settled by its decimal magnitude, so no power of ten beyond four hundred is computed. -/
def ofDecimal (negative : Bool) (digits : Nat) (exponent : Int) : Float :=
  let size : Int := (Text.digitsBefore 10 digits []).length + exponent
  if digits = 0 ∨ size < -400 then nearest negative 0 1
  else if 400 < size then infinity negative
  else nearest negative (digits * Nat.pow 10 exponent.toNat) (Nat.pow 10 (-exponent).toNat)

/-- The exponent behind `e` or `E`; nothing is exponent zero. -/
def readExponent? : List Char → Option Int
  | [] => some 0
  | c :: cs => if c = 'e' ∨ c = 'E' then readInt? cs else none

/-- An unsigned decimal: digits on at least one side of an optional point, then an optional
exponent. -/
def readUnsigned? (negative : Bool) (cs : List Char) : Option Float := do
  let front := cs.takeWhile isDecimalDigit
  let rest := cs.dropWhile isDecimalDigit
  let (back, rest) :=
    match rest with
    | '.' :: r => (r.takeWhile isDecimalDigit, r.dropWhile isDecimalDigit)
    | r => ([], r)
  if front.isEmpty && back.isEmpty then none
  let e ← readExponent? rest
  some (ofDecimal negative (digitsValue 10 (front ++ back)) (e - back.length))

/-- A decimal floating-point number behind an optional sign, or `inf`, `infinity` or `nan` in any
case. -/
def readFloat? (s : String) : Option Float :=
  let (negative, cs) := splitSign s.toList
  let word := foldAscii (String.ofList cs)
  if word = "inf" ∨ word = "infinity" then some (infinity negative)
  else if word = "nan" then some (0 / 0)
  else readUnsigned? negative cs

end SyntheticInput.Decimal
