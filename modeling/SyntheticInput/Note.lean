import SyntheticInput.Command.Target
import SyntheticInput.Decimal.Places
import SyntheticInput.Event
import SyntheticInput.Pause
import SyntheticInput.Script.Instruction
import SyntheticInput.Text.Quoted

/-!
# Diagnostics

A note is something an operation reports on the side. Notes never steer anything: they are part of
an outcome, not of a state.

* `Level`: how much attention a note asks for.
* `Note`: everything that is reported, by what it is about.
* `Note.level`, `Note.text`: the level and the wording of each note.
-/

namespace SyntheticInput

open Text (decimal signed)

/-- How much attention a note asks for, most urgent first. -/
inductive Level where
  | error | warn | info | debug | trace
  deriving Repr, DecidableEq

namespace Level

/-- The place of a level in the order of urgency, zero the most urgent. -/
def rank : Level → Nat
  | error => 0
  | warn => 1
  | info => 2
  | debug => 3
  | trace => 4

/-- The name of a level in front of a note. -/
def name : Level → String
  | error => "ERROR"
  | warn => "WARN"
  | info => "INFO"
  | debug => "DEBUG"
  | trace => "TRACE"

end Level

/-- Something an operation reports on the side. -/
inductive Note where
  | aliasUsed (name : String) (id : KeyId)
  | characterCode (name : String) (id : KeyId)
  | unknownAction (token : String)
  | commandRead (key : String) (action : Action)
  | activation (m : Modifier) (activated : Bool)
  | released (m : Modifier)
  | alreadyHeld (m : Modifier)
  | buttonDone (b : Button) (action : Action)
  | modifierDone (m : Modifier) (action : Action)
  | keyDone (id : KeyId) (action : Action)
  | dispatching (target : Target) (action : Action)
  | recording (event : Event)
  | planned (start target : Point) (distance : Float) (intervals : UInt64) (speed curve : Float)
  | runCancelled (steps : Nat)
  | stepRun (index : Nat) (dx dy : Int32) (pause : UInt64)
  | placing (x y : Int32)
  | fixedSeed (seed : UInt64)
  | executing (instruction : Instruction)
  | aliasIgnored (name : String)
  | configSpeed (speed : Float)
  | configSeed (seed : Option UInt64)
  | configAliases (count : Nat)
  | configLoading (path : String)
  | configPassed
  | configMissing (path : String)
  | moveDone (steps moves : Nat)
  | lineFailed (number : Nat) (message : String)
  deriving Repr

namespace Note

/-- The level of each kind of note. -/
def level : Note → Level
  | lineFailed _ _ => .error
  | characterCode _ _ | unknownAction _ | aliasIgnored _ => .warn
  | recording _ | fixedSeed _ | configLoading _ | configPassed | moveDone _ _ => .info
  | commandRead _ _ | alreadyHeld _ | dispatching _ _ | planned .. | runCancelled _
  | placing _ _ | executing _ | configSpeed _ | configSeed _ | configAliases _
  | configMissing _ => .debug
  | aliasUsed _ _ | activation _ _ | released _ | buttonDone _ _ | modifierDone _ _
  | keyDone _ _ | stepRun .. => .trace

/-- A named record such as `Move` with its fields. -/
def record (name : String) (fields : List (String × String)) : String :=
  name ++ " \x7b " ++ ", ".intercalate (fields.map fun f => f.1 ++ ": " ++ f.2) ++ " \x7d"

/-- An optional value. -/
def optional (v : Option String) : String :=
  match v with
  | some s => "Some(" ++ s ++ ")"
  | none => "None"

/-- The wording for a target. -/
def targetText : Target → String
  | .mouse b => "Mouse(" ++ b.label ++ ")"
  | .key id m =>
    record "Key" [("id", decimal id.toNat), ("modifier", optional (m.map Modifier.name))]

/-- The wording for an instruction. -/
def instructionText : Instruction → String
  | .move x y speed =>
    record "Move" [("x", signed x.toInt), ("y", signed y.toInt),
      ("speed", optional (speed.map Decimal.compact))]
  | .setPosition x y => record "SetPos" [("x", signed x.toInt), ("y", signed y.toInt)]
  | .sleep pause => "Sleep(" ++ pauseText pause ++ ")"
  | .key command => "Key(" ++ Text.quote command ++ ")"

/-- The wording for an event that a recording device is asked for. -/
def recordingText : Event → String
  | .key (.down id) => "[MOCK KEYBOARD] Key DOWN: " ++ id.text
  | .key (.up id) => "[MOCK KEYBOARD] Key UP: " ++ id.text
  | .mouse (.button b down data) =>
    "[MOCK MOUSE] Button " ++ (if down then "DOWN" else "UP") ++ ": " ++ b.name ++
      " (data=" ++ decimal data.toNat ++ ")"
  | .mouse (.move dx dy) =>
    "[MOCK MOUSE] Move relative: dx=" ++ signed dx.toInt ++ ", dy=" ++ signed dy.toInt
  | .mouse (.setPosition p) => "[MOCK MOUSE] Set position: " ++ p.text

/-- The wording of each note. -/
def text : Note → String
  | aliasUsed name id => "key '" ++ name ++ "' resolved via alias -> " ++ id.text
  | characterCode name id =>
    "key '" ++ name ++ "' not in table, using character code " ++ id.text
  | unknownAction token => "Unknown action '" ++ token ++ "', treating as click"
  | commandRead key action => "Parsed command: key='" ++ key ++ "' action=" ++ action.name
  | activation m activated =>
    "try_activate " ++ m.name ++ " -> " ++ (if activated then "true" else "false")
  | released m => "release " ++ m.name
  | alreadyHeld m => m.name ++ " already held, skipping key down"
  | buttonDone b action => "mouse " ++ b.name ++ " " ++ action.name
  | modifierDone m action => "modifier " ++ m.name ++ " " ++ action.name
  | keyDone id action => "key " ++ id.text ++ " " ++ action.name
  | dispatching target action => "Dispatching " ++ targetText target ++ " " ++ action.name
  | recording event => recordingText event
  | planned start target distance intervals speed curve =>
    "Planned trajectory " ++ start.text ++ " -> " ++ target.text ++ ": distance=" ++
      Decimal.fixed 1 distance ++ " steps=" ++ decimal intervals.toNat ++ " speed=" ++
      Decimal.plain speed ++ " curve=" ++ Decimal.fixed 3 curve
  | runCancelled steps => "Trajectory cancelled after " ++ decimal steps ++ " steps"
  | stepRun index dx dy pause =>
    "step " ++ decimal index ++ ": (" ++ signed dx.toInt ++ ", " ++ signed dy.toInt ++
      ") then " ++ pauseText pause
  | placing x y =>
    "Setting cursor position to (" ++ signed x.toInt ++ ", " ++ signed y.toInt ++ ")"
  | fixedSeed seed => "Using fixed trajectory seed " ++ decimal seed.toNat
  | executing instruction => "Executing " ++ instructionText instruction
  | aliasIgnored name =>
    "Key alias '" ++ name ++ "' is a built-in key name and will be ignored"
  | configSpeed speed => "  - Default speed: " ++ Decimal.plain speed
  | configSeed seed => "  - Seed: " ++ optional (seed.map fun s => decimal s.toNat)
  | configAliases count => "  - Key aliases: " ++ decimal count
  | configLoading path => "Loading configuration from: " ++ path
  | configPassed => "✓ Config validation passed"
  | configMissing path => path ++ " not found, using built-in defaults"
  | moveDone steps moves =>
    "Moved in " ++ decimal steps ++ " steps (" ++ decimal moves ++ " moves)"
  | lineFailed number message => "line " ++ decimal number ++ ": " ++ message

/-- The note behind the name of its level. -/
def line (n : Note) : String := n.level.name ++ " " ++ n.text

end Note

/-- The notes of the given level and above. -/
def notesAt (level : Level) (notes : List Note) : List Note :=
  notes.filter fun n => n.level.rank ≤ level.rank

end SyntheticInput
