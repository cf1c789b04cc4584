import SyntheticInput.CommandLine.Word

/-!
# Subcommands and options

* `Subcommand`: the jobs by their names.
* `Flag`: the options, with the places where they are known.
* `UsageError`: what is wrong with the arguments.
-/

namespace SyntheticInput.CommandLine

/-- The jobs by name. -/
inductive Subcommand where
  | send | move | setPosition | run
  deriving Repr, DecidableEq

namespace Subcommand

/-- All subcommands. -/
def all : List Subcommand := [send, move, setPosition, run]

/-- The name of a subcommand. -/
def name : Subcommand → String
  | send => "send"
  | move => "move"
  | setPosition => "set-pos"
  | run => "run"

/-- The subcommand with a name. -/
def ofName? (n : String) : Option Subcommand := all.find? (·.name = n)

/-- Negative numbers are operands and values, not options. -/
def takesNegative : Subcommand → Bool
  | move => true
  | setPosition => true
  | _ => false

end Subcommand

/-- Where an option stands: behind a subcommand, or before any. -/
abbrev Place := Option Subcommand

/-- The options. -/
inductive Flag where
  | config | dryRun | seed | speed | version | help
  deriving Repr, DecidableEq

namespace Flag

/-- All options. -/
def all : List Flag := [config, dryRun, seed, speed, version, help]

/-- The long name of an option. -/
def name : Flag → String
  | config => "config"
  | dryRun => "dry-run"
  | seed => "seed"
  | speed => "speed"
  | version => "version"
  | help => "help"

/-- The letter of an option, if it has one. -/
def letter? : Flag → Option Char
  | version => some 'V'
  | help => some 'h'
  | _ => none

/-- The option is known at a place. -/
def isAt (place : Place) : Flag → Bool
  | speed => place = some .move
  | version => place = none
  | _ => true

/-- The option with a long name at a place. -/
def ofName? (place : Place) (n : String) : Option Flag :=
  all.find? fun f => f.isAt place && f.name = n

/-- The option with a letter at a place. -/
def ofLetter? (place : Place) (c : Char) : Option Flag :=
  all.find? fun f => f.isAt place && f.letter? = some c

end Flag

/-- What is wrong with the arguments. -/
inductive UsageError where
  | unknownOption (argument : String)
  | missingValue (flag : Flag)
  | unexpectedValue (flag : Flag)
  | repeated (flag : Flag)
  | badValue (flag : Flag) (value : String)
  | badOperand (operand : String)
  | unexpectedOperand (operand : String)
  | missingOperand (subcommand : Subcommand)
  | unknownSubcommand (name : String)
  | missingSubcommand
  deriving Repr, DecidableEq

/-- The wording of a usage error. -/
def UsageError.message : UsageError → String
  | unknownOption argument => "unexpected option '" ++ argument ++ "'"
  | missingValue flag => "option '--" ++ flag.name ++ "' needs a value"
  | unexpectedValue flag => "option '--" ++ flag.name ++ "' takes no value"
  | repeated flag => "option '--" ++ flag.name ++ "' is given more than once"
  | badValue flag value => "invalid value '" ++ value ++ "' for '--" ++ flag.name ++ "'"
  | badOperand operand => "invalid coordinate '" ++ operand ++ "'"
  | unexpectedOperand operand => "unexpected argument '" ++ operand ++ "'"
  | missingOperand subcommand => "'" ++ subcommand.name ++ "' needs more arguments"
  | unknownSubcommand name => "unknown subcommand '" ++ name ++ "'"
  | missingSubcommand => "a subcommand is needed"

end SyntheticInput.CommandLine
