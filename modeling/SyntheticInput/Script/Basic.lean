import SyntheticInput.Decimal.Reader
import SyntheticInput.Script.Error
import SyntheticInput.Simulator

/-!
# Scripts

A line of a script is a directive with its arguments, a key command, or nothing: blank lines and
lines that start with a number sign ask for nothing.

* `Directive.ofWord?`: the directive that a word is, in any ASCII case.
* `Instruction.ofLine?`: what a line asks for.
* `Instruction.execute`: does it.
* `runLine`: reads a line and does what it asks for.
-/

namespace SyntheticInput

/-- The directive that a word is, in any ASCII case. -/
def Directive.ofWord? (word : String) : Option Directive :=
  all.find? fun d => Text.foldAscii word = d.word

/-- The words for directives are folded. -/
@[simp] theorem Directive.foldAscii_word (d : Directive) : Text.foldAscii d.word = d.word := by
  cases d <;> decide

namespace Instruction

open Decimal (readInt32? readFloat? readUInt64?)

/-- An argument, read by `read`. -/
def argument {α : Type} (d : Directive) (read : String → Option α) (token : String) :
    Except ScriptError α :=
  match read token with
  | some v => .ok v
  | none => .error (.invalid d (.unreadable token))

/-- The instruction of a directive. The count of the arguments is checked first, then they are read
from the left. -/
def ofDirective (d : Directive) (args : List String) : Except ScriptError Instruction :=
  match d, args with
  | .move, [x, y] => do
    return .move (← argument d readInt32? x) (← argument d readInt32? y) none
  | .move, [x, y, speed] => do
    return .move (← argument d readInt32? x) (← argument d readInt32? y)
      (some (← argument d readFloat? speed))
  | .setPosition, [x, y] => do
    return .setPosition (← argument d readInt32? x) (← argument d readInt32? y)
  | .sleep, [ms] => do return .sleep (← argument d readUInt64? ms)
  | d, args => .error (.invalid d (.wrongCount args.length))

/-- What a line asks for; nothing where it is blank or a comment. -/
def ofLine? (line : String) : Except ScriptError (Option Instruction) :=
  let text := Text.trim line.toList
  match Text.words text with
  | [] => .ok none
  | w :: ws =>
    if w.head? = some '#' then .ok none
    else
      match Directive.ofWord? (String.ofList w) with
      | some d => (ofDirective d (ws.map String.ofList)).map some
      | none => .ok (some (.key (String.ofList text)))

variable {δ : Type} [Devices δ]

/-- Does what an instruction asks for. A pause changes nothing. -/
def execute (i : Instruction) : Act (Simulator δ) ScriptError Unit := do
  Act.note (.executing i)
  match i with
  | .move x y speed =>
    let _ ← Act.mapError .device (Simulator.moveTo ⟨x, y⟩ speed)
  | .setPosition x y => Act.mapError .device (Simulator.setPosition ⟨x, y⟩)
  | .sleep _ => return ()
  | .key command => Act.mapError .command (Simulator.send command)

end Instruction

/-- Reads a line and does what it asks for; tells whether it asked for anything. -/
def runLine {δ : Type} [Devices δ] (line : String) : Act (Simulator δ) ScriptError Bool := do
  match ← Act.lift (Instruction.ofLine? line) with
  | none => return false
  | some i =>
    i.execute
    return true

end SyntheticInput
