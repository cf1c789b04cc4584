import SyntheticInput.Command.Error
import SyntheticInput.Text.Numeral

/-!
# Why a script line fails

* `Directive`: the words that start a line which is no key command.
* `LineFault`: what is wrong with the arguments of a directive.
* `ScriptError`: the causes of a failing line, with one wording each.
-/

namespace SyntheticInput

/-- A word that starts a script line which is no key command. -/
inductive Directive where
  | move | setPosition | sleep
  deriving Repr, DecidableEq

namespace Directive

/-- All directives. -/
def all : List Directive := [move, setPosition, sleep]

/-- The word for a directive. -/
def word : Directive → String
  | move => "move"
  | setPosition => "setpos"
  | sleep => "sleep"

/-- The least number of arguments. -/
def leastArgs : Directive → Nat
  | move => 2
  | setPosition => 2
  | sleep => 1

/-- The greatest number of arguments. -/
def mostArgs : Directive → Nat
  | move => 3
  | setPosition => 2
  | sleep => 1

end Directive

/-- What is wrong with the arguments of a directive. -/
inductive LineFault where
  | wrongCount (given : Nat)
  | unreadable (token : String)
  deriving Repr, DecidableEq

/-- Why a script line fails. -/
inductive ScriptError where
  /-- The arguments of a directive are wrong. -/
  | invalid (directive : Directive) (fault : LineFault)
  /-- The line is a key command that fails. -/
  | command (cause : CommandError)
  /-- A device refused a move or a placing. -/
  | device (cause : DeviceError)
  deriving Repr, DecidableEq

/-- The wording of a fault in the arguments of `d`. -/
def LineFault.message (d : Directive) : LineFault → String
  | wrongCount given =>
    "expected " ++ Text.decimal d.leastArgs ++ "..=" ++ Text.decimal d.mostArgs ++
      " arguments, got " ++ Text.decimal given
  | unreadable token => "cannot parse '" ++ token ++ "'"

/-- The wording of a script error. -/
def ScriptError.message : ScriptError → String
  | invalid d fault => "Invalid '" ++ d.word ++ "' line: " ++ fault.message d
  | command cause => cause.message
  | device cause => cause.message

end SyntheticInput
