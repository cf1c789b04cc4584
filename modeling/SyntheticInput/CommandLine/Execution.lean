import SyntheticInput.CommandLine.Arguments
import SyntheticInput.CommandLine.Failure
import SyntheticInput.CommandLine.Input
import SyntheticInput.CommandLine.Plain
import SyntheticInput.Config.Load
import SyntheticInput.Device.Recorder
import SyntheticInput.Event.Line
import SyntheticInput.Script.Basic

/-!
# Carrying out an invocation

* `runScript`: runs the lines of a script, each whether the ones before it failed or not.
* `Job.perform`: a job on any simulator.
* `Execution`, `Invocation.run`: a whole invocation, over recording devices.
* `Answer`, `respond`: what is printed for arguments, and the exit code.
-/

namespace SyntheticInput.CommandLine

section Jobs

variable {δ : Type} [Devices δ]

/-- Runs lines whose first has the number `n`; gives the count of those that failed. -/
def runLines {ε : Type} (n : Nat) : List String → Act (Simulator δ) ε Nat
  | [] => return 0
  | l :: ls => do
    match ← Act.attempt (runLine l) with
    | .ok _ => runLines (n + 1) ls
    | .error e =>
      Act.note (.lineFailed n e.message)
      return (← runLines (n + 1) ls) + 1

/-- Runs the lines of a script. That the input could not be read to its end counts more than that
lines failed. -/
def runScript (input : Input) : Act (Simulator δ) Failure Unit := do
  let failures ← runLines 1 input.lines
  if !input.complete then Act.fail .unreadableInput
  else if failures ≠ 0 then Act.fail (.failedLines failures)

/-- Carries out a job; only a script looks at the input. -/
def Job.perform (input : List UInt8) : Job → Act (Simulator δ) Failure Unit
  | .send command => Act.mapError .command (Simulator.send command)
  | .move target speed => do
    let report ← Act.mapError .device (Simulator.moveTo target speed)
    Act.note (.moveDone report.stepsRun report.movesEmitted)
  | .setPosition target => Act.mapError .device (Simulator.setPosition target)
  | .run => runScript (Input.ofBytes input)

end Jobs

/-- What an invocation depends on besides its arguments. -/
structure Environment where
  files : Config.Files
  /-- Standard input. -/
  input : List UInt8 := []
  /-- The path names standard input, of which nothing is left once it was read as a file. -/
  isInput : String → Bool := fun _ => false
  /-- Where the randomness starts when no seed is given. -/
  entropy : UInt64 := 0

/-- What an invocation leaves behind. -/
structure Execution where
  result : Except Failure Unit
  /-- The recorded events, in the order in which they were issued. -/
  events : List Event := []
  notes : List Note := []

namespace Invocation

/-- The configuration of an invocation. A seed among the arguments counts before one in the
file. -/
def configuration (i : Invocation) (files : Config.Files) : Act Unit Failure Config := do
  let c ← Act.mapError (.configuration i.config) <|
    match i.config with
    | some path => Config.load files path
    | none => Config.loadDefault files
  return { c with settings := { c.settings with seed := i.seed <|> c.settings.seed } }

/-- Standard input behind the configuration, which may have been read from it. -/
def remainingInput (i : Invocation) (e : Environment) : List UInt8 :=
  if i.config.any e.isInput then [] else e.input

/-- Carries out an invocation. The recorded events are kept also when it fails. -/
def run (i : Invocation) (e : Environment) : Execution :=
  match i.configuration e.files () with
  | ⟨.error cause, _, notes⟩ => { result := .error cause, notes }
  | ⟨.ok c, _, notes⟩ =>
    if i.dryRun then
      let start : Simulator Recorder := .ofConfig c e.entropy {}
      let o := i.job.perform (i.remainingInput e) start
      { result := o.result
        events := o.state.devices.log
        notes := notes ++ Simulator.setupNotes c ++ o.notes }
    else { result := .error .noDevices, notes }

end Invocation

namespace Execution

/-- The events as lines. -/
def output (x : Execution) : List String := x.events.map Event.line

/-- A text with a line feed at its end, whose lines after the first are indented. -/
def indented (text : String) : String :=
  "\n".intercalate (Failure.hanging "" "    " text) ++ "\n"

/-- A note as a log record; lines after its first are indented. -/
def record (n : Note) : String := plain (indented n.line)

/-- The notes down to a level, and the failure. -/
def diagnostics (level : Option Level) (x : Execution) : String :=
  let notes :=
    match level with
    | some l => notesAt l x.notes
    | none => []
  String.join (notes.map record) ++
    match x.result with
    | .ok _ => ""
    | .error f => String.join (f.report.map (· ++ "\n"))

end Execution

/-- What is printed, and the exit code: zero for success, one for a failure and two for arguments
that cannot be understood. -/
structure Answer where
  code : UInt32
  output : List String := []
  diagnostics : String := ""
  deriving Repr, DecidableEq

/-- The line that names the program and its version. -/
def versionLine : String := "input-sim 0.1.0"

/-- How the program is used. -/
def helpLines : List String := [
  "Synthetic keyboard and mouse input",
  "",
  "Usage: input-sim [OPTIONS] <COMMAND>",
  "",
  "Commands:",
  "  send <COMMAND>...         Send one key command",
  "  move <X> <Y> [--speed S]  Move the cursor along a smoothed path",
  "  set-pos <X> <Y>           Place the cursor instantly",
  "  run                       Run script lines from standard input",
  "",
  "Options:",
  "  --config <FILE>  Configuration file",
  "  --dry-run        Print the events instead of sending them",
  "  --seed <N>       Seed of the randomness",
  "  -h, --help       Print help",
  "  -V, --version    Print the version"]

/-- What the program answers to a request. -/
def Request.respond (e : Environment) (level : Option Level) : Request → Answer
  | .version => { code := 0, output := [versionLine] }
  | .help => { code := 0, output := helpLines }
  | .invoke i =>
    let x := i.run e
    { code := if x.result.isOk then 0 else 1
      output := x.output
      diagnostics := x.diagnostics level }

/-- What the program answers to arguments. -/
def respond (arguments : List String) (e : Environment) (level : Option Level) : Answer :=
  match Request.ofArguments arguments with
  | .ok r => r.respond e level
  | .error fault => { code := 2, diagnostics := "error: " ++ fault.message ++ "\n" }

end SyntheticInput.CommandLine
