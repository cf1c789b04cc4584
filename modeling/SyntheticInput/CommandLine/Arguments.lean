import SyntheticInput.CommandLine.Invocation
import SyntheticInput.CommandLine.Flag

/-!
# Reading arguments

Arguments are read from the left. Options may stand before the subcommand or behind it, one that
stands in both places counts behind it, and none may stand twice in one place. Behind a separator
everything is an operand. A question for help or for the version is answered only if nothing is
wrong with what stands before it.

* `Given`: what has been read at one place.
* `scan`: reads the arguments of one place.
* `Request.ofArguments`: what the arguments ask for, or what is wrong with them.
-/

namespace SyntheticInput.CommandLine

open Decimal (readInt32? readFloat? readUInt64?)

/-- What has been read at one place. -/
structure Given where
  config : Option String := none
  dryRun : Bool := false
  seed : Option UInt64 := none
  speed : Option Float := none
  /-- The words of a key command. -/
  words : List String := []
  /-- The coordinates of a point. -/
  coordinates : List Int32 := []
  /-- An option whose value, an argument of its own, is still to be read. -/
  unread : Option (Flag × String) := none
  deriving Repr

namespace Given

/-- Sets an option that is not set yet to what `read` makes of a value. -/
def fill {α : Type} (f : Flag) (old : Option α) (read : String → Option α) (value : String) :
    Except UsageError (Option α) :=
  match old, read value with
  | some _, _ => .error (.repeated f)
  | none, none => .error (.badValue f value)
  | none, some v => .ok (some v)

/-- A path is any text that is not empty. -/
def readPath? (value : String) : Option String := if value = "" then none else some value

/-- Takes the value of an option. -/
def withValue (g : Given) (f : Flag) (value : String) : Except UsageError Given := do
  match f with
  | .config => return { g with config := ← fill f g.config readPath? value }
  | .seed => return { g with seed := ← fill f g.seed readUInt64? value }
  | .speed => return { g with speed := ← fill f g.speed readFloat? value }
  | _ => throw (.unexpectedValue f)

/-- Reads the value that is still to be read. -/
def settle (g : Given) : Except UsageError Given :=
  match g.unread with
  | some (f, value) => { g with unread := none }.withValue f value
  | none => .ok g

/-- Takes the option that asks for a recording. -/
def withDryRun (g : Given) : Except UsageError Given :=
  if g.dryRun then .error (.repeated .dryRun) else .ok { g with dryRun := true }

/-- Takes an operand, as far as the subcommand has room for it. -/
def withOperand (s : Subcommand) (g : Given) (operand : String) : Except UsageError Given :=
  match s with
  | .send => .ok { g with words := g.words ++ [operand] }
  | .run => .error (.unexpectedOperand operand)
  | .move | .setPosition =>
    if 2 ≤ g.coordinates.length then .error (.unexpectedOperand operand)
    else
      match readInt32? operand with
      | some i => .ok { g with coordinates := g.coordinates ++ [i] }
      | none => .error (.badOperand operand)

end Given

/-- How the arguments of a place end. -/
inductive Ending where
  | complete
  | version
  | help
  /-- Help on the subcommands that follow. -/
  | helpOn (names : List String)
  | enter (s : Subcommand) (arguments : List String)
  deriving Repr

/-- The argument can be the value of an option in front of it: it looks like no option. -/
def isValue (place : Place) (argument : String) : Bool :=
  match Word.ofArgument argument with
  | .plain => true
  | .short cs => place.any Subcommand.takesNegative && isNumeric cs
  | _ => false

/-- Reads the arguments of one place. The value of an option in an argument of its own is read
when the next argument of the place is taken; a subcommand and its arguments come first. -/
def scan (place : Place) (g : Given) : List String → Except UsageError (Given × Ending)
  | [] => return (← g.settle, .complete)
  | a :: rest =>
    match Word.ofArgument a, place with
    | .separator, none =>
      match rest with
      | [] => .error .missingSubcommand
      | r :: _ => .error (.unexpectedOperand r)
    | .separator, some s => do
      return (← rest.foldlM (Given.withOperand s) (← g.settle), .complete)
    | .long name attached, _ =>
      match Flag.ofName? place name, attached, rest with
      | none, _, _ => .error (.unknownOption a)
      | some .help, none, _ => return (← g.settle, .help)
      | some .version, none, _ => return (← g.settle, .version)
      | some .dryRun, none, rest => do scan place (← (← g.settle).withDryRun) rest
      | some f, some v, rest => do scan place (← (← g.settle).withValue f v) rest
      | some f, none, [] => .error (.missingValue f)
      | some f, none, v :: rest => do
        let g ← g.settle
        if isValue place v then scan place { g with unread := some (f, v) } rest
        else throw (.missingValue f)
    | .short cs, _ =>
      if isValue place a then
        match place with
        | some s => do scan place (← (← g.settle).withOperand s a) rest
        | none => .error (.unknownOption a)
      else
        match cs.head?.bind (Flag.ofLetter? place) with
        | some .help => return (← g.settle, .help)
        | some .version => return (← g.settle, .version)
        | _ => .error (.unknownOption a)
    | .plain, some s => do scan place (← (← g.settle).withOperand s a) rest
    | .plain, none =>
      if a = Flag.help.name then .ok (g, .helpOn rest)
      else
        match Subcommand.ofName? a with
        | some s => .ok (g, .enter s rest)
        | none => .error (.unknownSubcommand a)

/-- The job of a subcommand with what was read behind it. -/
def Given.job (g : Given) : Subcommand → Except UsageError Job
  | .send =>
    if g.words.isEmpty then .error (.missingOperand .send)
    else .ok (.send (" ".intercalate g.words))
  | .run => .ok .run
  | .move =>
    match g.coordinates with
    | [x, y] => .ok (.move ⟨x, y⟩ g.speed)
    | _ => .error (.missingOperand .move)
  | .setPosition =>
    match g.coordinates with
    | [x, y] => .ok (.setPosition ⟨x, y⟩)
    | _ => .error (.missingOperand .setPosition)

/-- The names lead to a subcommand; help on help is there, too. -/
def isHelpTopic : List String → Bool
  | [] => true
  | [n] => n = Flag.help.name || (Subcommand.ofName? n).isSome
  | _ => false

/-- What the arguments ask for, or what is wrong with them. -/
def Request.ofArguments (arguments : List String) : Except UsageError Request := do
  match ← scan none {} arguments with
  | (_, .complete) => throw .missingSubcommand
  | (_, .version) => return .version
  | (_, .help) => return .help
  | (_, .helpOn names) =>
    if isHelpTopic names then return .help
    else throw (.unknownSubcommand (" ".intercalate names))
  | (general, .enter s rest) =>
    match ← scan (some s) {} rest with
    | (_, .help) => return .help
    | (own, _) =>
      let general ← general.settle
      return .invoke {
        job := ← own.job s
        config := own.config <|> general.config
        dryRun := own.dryRun || general.dryRun
        seed := own.seed <|> general.seed }

end SyntheticInput.CommandLine
