import SyntheticInput.Decimal.Reader
import SyntheticInput.Toml.Lexeme
import SyntheticInput.Toml.Value

/-!
# Numbers, dates and times in TOML

A number or a date is the longest run of characters that can occur in one; the whole run has to be
of one of the forms.

* `integer?`: decimal integers, and hexadecimal, octal and binary ones, within 64 bits.
* `float?`: decimals with a point or an exponent, infinities and numbers that are none.
* `moment?`: dates, times and both, with or without an offset.
* `scalar?`: the value of a run.
-/

namespace SyntheticInput.Toml

open Text (isDigitOf digitsValue)

/-- The digits of a run in which single underscores may stand between digits. -/
def grouped? (p : Char → Bool) : List Char → Option (List Char)
  | [] => none
  | [c] => if p c then some [c] else none
  | c :: '_' :: cs => if p c then (grouped? p cs).map (c :: ·) else none
  | c :: cs => if p c then (grouped? p cs).map (c :: ·) else none

/-- Decimal digits without a leading zero, the lone zero apart. -/
def plainDigits? (cs : List Char) : Option (List Char) :=
  match cs with
  | ['0'] => some ['0']
  | '0' :: _ => none
  | cs => grouped? (isDigitOf 10) cs

/-- The integer, if it has 64 bits. -/
def inRange? (i : Int) : Option Int :=
  if -0x8000000000000000 ≤ i ∧ i < 0x8000000000000000 then some i else none

/-- An integer. Only decimal ones have a sign. -/
def integer? : List Char → Option Int
  | '0' :: 'x' :: cs => based 16 cs
  | '0' :: 'o' :: cs => based 8 cs
  | '0' :: 'b' :: cs => based 2 cs
  | cs => do
    let (negative, ds) := Decimal.splitSign cs
    let n := digitsValue 10 (← plainDigits? ds)
    inRange? (if negative then -(n : Int) else n)
where
  /-- Digits of another base. -/
  based (b : Nat) (cs : List Char) : Option Int := do
    inRange? (digitsValue b (← grouped? (isDigitOf b) cs))

/-- The exponent of a number behind its letter; nothing where there is no exponent. -/
def exponent? : List Char → Option Int
  | [] => some 0
  | _ :: cs => do
    let (negative, ds) := Decimal.splitSign cs
    let n := digitsValue 10 (← grouped? (isDigitOf 10) ds)
    some (if negative then -(n : Int) else n)

/-- A decimal with a point, an exponent or both. -/
def decimal? (negative : Bool) (cs : List Char) : Option Float := do
  let isExponent (c : Char) : Bool := c = 'e' || c = 'E'
  let mantissa := cs.takeWhile (!isExponent ·)
  let tail := cs.dropWhile (!isExponent ·)
  let whole ← plainDigits? (mantissa.takeWhile (· ≠ '.'))
  let behind ←
    match mantissa.dropWhile (· ≠ '.') with
    | [] => some []
    | _ :: ds => grouped? (isDigitOf 10) ds
  if behind.isEmpty && tail.isEmpty then none
  let e ← exponent? tail
  some (Decimal.ofDecimal negative (digitsValue 10 (whole ++ behind)) (e - behind.length))

/-- A floating-point number. One that is too large is refused, and one that is too small becomes
negative infinity. -/
def float? (cs : List Char) : Option Float :=
  let (negative, body) := Decimal.splitSign cs
  if body = ['i', 'n', 'f'] then some (Decimal.infinity negative)
  else if body = ['n', 'a', 'n'] then some (0 / 0)
  else do
    let x ← decimal? negative body
    if x.isInf && !negative then none else some x

/-- The number that two digits stand for. -/
def twoDigits? (a b : Char) : Option Nat :=
  if isDigitOf 10 a && isDigitOf 10 b then some (digitsValue 10 [a, b]) else none

/-- The number of days of a month. -/
def daysOf (year month : Nat) : Nat :=
  if month = 2 then
    if year % 4 = 0 ∧ (year % 100 ≠ 0 ∨ year % 400 = 0) then 29 else 28
  else if month = 4 ∨ month = 6 ∨ month = 9 ∨ month = 11 then 30
  else 31

/-- The text behind a date. -/
def afterDate? : List Char → Option (List Char)
  | a :: b :: c :: d :: '-' :: m :: n :: '-' :: x :: y :: rest => do
    let century ← twoDigits? a b
    let year := century * 100 + (← twoDigits? c d)
    let month ← twoDigits? m n
    let day ← twoDigits? x y
    if 1 ≤ month ∧ month ≤ 12 ∧ 1 ≤ day ∧ day ≤ daysOf year month then some rest else none
  | _ => none

/-- The text behind a time of day. -/
def afterTime? : List Char → Option (List Char)
  | a :: b :: ':' :: c :: d :: ':' :: e :: f :: rest => do
    let hour ← twoDigits? a b
    let minute ← twoDigits? c d
    let second ← twoDigits? e f
    if 23 < hour ∨ 59 < minute ∨ 60 < second then none
    match rest with
    | '.' :: ds =>
      if (ds.takeWhile (isDigitOf 10)).isEmpty then none
      else some (ds.dropWhile (isDigitOf 10))
    | rest => some rest
  | _ => none

/-- The text is an offset from universal time, or empty. -/
def isOffset : List Char → Bool
  | [] => true
  | ['Z'] => true
  | ['z'] => true
  | [s, a, b, ':', c, d] =>
    match twoDigits? a b, twoDigits? c d with
    | some hour, some minute => (s = '+' || s = '-') && hour ≤ 23 && minute ≤ 59
    | _, _ => false
  | _ => false

/-- The text is a time of day with an optional offset. -/
def isDayTime (cs : List Char) : Bool :=
  match afterTime? cs with
  | some rest => isOffset rest
  | none => false

/-- The text is a date, a time, or a date and a time joined by a letter. -/
def isMoment (cs : List Char) : Bool :=
  match afterDate? cs with
  | some [] => true
  | some (t :: rest) => (t = 'T' || t = 't') && isDayTime rest
  | none => afterTime? cs == some []

/-- A character that can occur in a number or a date. -/
def isNumberChar (c : Char) : Bool :=
  c.isAlphanum || c = '+' || c = '-' || c = '_' || c = '.' || c = ':'

/-- The value of a run of such characters. -/
def runValue? (cs : List Char) : Option Value :=
  if cs = ['t', 'r', 'u', 'e'] then some (.boolean true)
  else if cs = ['f', 'a', 'l', 's', 'e'] then some (.boolean false)
  else if isMoment cs then some .moment
  else
    match float? cs with
    | some x => some (.float x)
    | none => (integer? cs).map .integer

/-- A number, a date or a truth value. A date may be joined to a time by a single space. -/
def readScalar? : Reader Value := fun cs =>
  let run := cs.takeWhile isNumberChar
  let rest := cs.dropWhile isNumberChar
  match afterDate? run, rest with
  | some [], ' ' :: more =>
    let time := more.takeWhile isNumberChar
    if time.isEmpty then some (.moment, rest)
    else if isDayTime time then some (.moment, more.dropWhile isNumberChar)
    else none
  | _, _ => (runValue? run).map (·, rest)

end SyntheticInput.Toml
