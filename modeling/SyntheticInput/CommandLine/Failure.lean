import SyntheticInput.Command.Error
import SyntheticInput.Config.Error
import SyntheticInput.Text.Numeral
import SyntheticInput.Text.Split

/-!
# Why an invocation fails

* `Failure`: the causes.
* `Failure.message`, `Failure.causes`: the wording, and the wording of what is behind it.
* `Failure.report`: both as lines.
-/

namespace SyntheticInput.CommandLine

/-- Why an invocation fails. -/
inductive Failure where
  /-- The configuration of a path, or of no path where the default was asked for, cannot be
  had. -/
  | configuration (path : Option String) (cause : ConfigError)
  /-- There are no devices to send input to. -/
  | noDevices
  | command (cause : CommandError)
  | device (cause : DeviceError)
  /-- Standard input holds a line that is no text. -/
  | unreadableInput
  /-- Some lines of a script failed. -/
  | failedLines (count : Nat)
  deriving Repr, DecidableEq

namespace Failure

/-- The wording of a failure. -/
def message : Failure → String
  | configuration (some path) _ => "loading configuration from " ++ path
  | configuration none _ => "loading default configuration"
  | noDevices => "real input injection needs Windows; try --dry-run"
  | command cause => cause.message
  | device cause => cause.message
  | unreadableInput => "reading script from stdin"
  | failedLines count => Text.decimal count ++ " script line(s) failed"

/-- The wording of what is behind a failure, nearest first. -/
def causes : Failure → List String
  | configuration _ cause => cause.message :: cause.cause?.toList
  | noDevices => [DeviceError.platformNotSupported.message]
  | unreadableInput => [FileError.notUtf8.message]
  | _ => []

/-- The lines of a text behind `first`, from the second line on behind `later`. -/
def hanging (first later text : String) : List String :=
  match Text.lines text with
  | [] => []
  | l :: ls => (first ++ l) :: ls.map (later ++ ·)

/-- Causes with their numbers, counted from `n`. -/
def numbered (n : Nat) : List String → List String
  | [] => []
  | c :: cs =>
    let digits := Text.decimal n
    let padding := String.ofList (List.replicate (5 - digits.length) ' ')
    hanging (padding ++ digits ++ ": ") "       " c ++ numbered (n + 1) cs

/-- A failure with everything behind it, as lines. A lone cause has no number. -/
def report (f : Failure) : List String :=
  hanging "Error: " "" f.message ++
    match f.causes with
    | [] => []
    | [c] => "" :: "Caused by:" :: hanging "    " "    " c
    | cs => "" :: "Caused by:" :: numbered 0 cs

end Failure

end SyntheticInput.CommandLine
