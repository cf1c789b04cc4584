/-!
# Numerals

* `decimal`, `signed`: the digits of a natural number and of an integer.
* `hex`: hexadecimal digits, with a least count and a choice of letter case.
* `digitsValue`: the number that a list of digits stands for, in any base.
-/

namespace SyntheticInput.Text

/-- The digit for a value below sixteen, `a` to `f` above nine. -/
def digit (n : Nat) : Char := if n < 10 then Char.ofNat (48 + n) else Char.ofNat (87 + n)

/-- The digits of `n` in base `b`, most significant first, followed by `rest`; a base below two
gives no more digits than one. -/
def digitsBefore (b n : Nat) (rest : List Char) : List Char :=
  if n < b ∨ b < 2 then digit n :: rest
  else digitsBefore b (n / b) (digit (n % b) :: rest)
termination_by n
decreasing_by
  rename_i h
  exact Nat.div_lt_self (by omega) (by omega)

/-- The decimal digits of a natural number. -/
def decimal (n : Nat) : String := String.ofList (digitsBefore 10 n [])

/-- The decimal digits of an integer behind a minus sign when it is negative. -/
def signed (i : Int) : String := if i < 0 then "-" ++ decimal i.natAbs else decimal i.natAbs

/-- Lowercase hexadecimal digits. -/
def hexLower (n : Nat) : String := String.ofList (digitsBefore 16 n [])

/-- Uppercase hexadecimal digits, at least two of them. -/
def hexByte (n : Nat) : String :=
  let ds := (digitsBefore 16 n []).map Char.toUpper
  String.ofList (List.replicate (2 - ds.length) '0' ++ ds)

/-- The value of a digit, `a` to `f` counting from ten in either case. -/
def digitValue? (c : Char) : Option Nat :=
  if '0' ≤ c ∧ c ≤ '9' then some (c.toNat - 48)
  else if 'a' ≤ c ∧ c ≤ 'f' then some (c.toNat - 87)
  else if 'A' ≤ c ∧ c ≤ 'F' then some (c.toNat - 55)
  else none

/-- The character is a digit of base `b`. -/
def isDigitOf (b : Nat) (c : Char) : Bool :=
  match digitValue? c with
  | some v => v < b
  | none => false

/-- The number that digits of base `b` stand for; characters that are no digits count as zero. -/
def digitsValue (b : Nat) (cs : List Char) : Nat :=
  cs.foldl (fun n c => n * b + (digitValue? c).getD 0) 0

end SyntheticInput.Text
