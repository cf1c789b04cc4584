import SyntheticInput.Decimal.Reader

/-!
# The shapes of arguments

An argument that starts with a hyphen is an option unless it is the hyphen alone. Behind two
hyphens stands the name of one option, perhaps with a value behind an equals sign; behind one
hyphen stand letters, each an option of its own.

* `Word`, `Word.ofArgument`: the shape of an argument.
* `isNumeric`: the texts that make `-text` a negative number and no options.
-/

namespace SyntheticInput.CommandLine

open Decimal (isDecimalDigit)

/-- The shape of an argument. -/
inductive Word where
  /-- Two hyphens alone: no option follows. -/
  | separator
  | long (name : String) (value : Option String)
  | short (letters : List Char)
  | plain
  deriving Repr, DecidableEq

/-- The shape of an argument. -/
def Word.ofArgument (argument : String) : Word :=
  match argument.toList with
  | ['-'] => plain
  | ['-', '-'] => separator
  | '-' :: '-' :: cs =>
    let name := String.ofList (cs.takeWhile (· ≠ '='))
    match cs.dropWhile (· ≠ '=') with
    | [] => long name none
    | _ :: v => long name (some (String.ofList v))
  | '-' :: cs => short cs
  | _ => plain

/-- Digits with at most one point, which does not come first. -/
def isMantissa (cs : List Char) : Bool :=
  let front := cs.takeWhile isDecimalDigit
  match cs.dropWhile isDecimalDigit with
  | [] => true
  | c :: ds => c = '.' && !front.isEmpty && ds.all isDecimalDigit

/-- A mantissa, or a mantissa that is not empty with `e` and digits behind it. -/
def isNumeric (cs : List Char) : Bool :=
  let front := cs.takeWhile (· ≠ 'e')
  isMantissa front &&
    match cs.dropWhile (· ≠ 'e') with
    | [] => true
    | _ :: ds => !front.isEmpty && !ds.isEmpty && ds.all isDecimalDigit

end SyntheticInput.CommandLine
