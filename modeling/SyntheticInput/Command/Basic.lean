import SyntheticInput.Command.Target
import SyntheticInput.Key.Resolver
import SyntheticInput.Text.Blank

/-!
# Key commands

A key command is the name of a key or button and an optional action. Words behind the second are
ignored.

* `Action.ofToken`: the action that a word asks for.
* `KeyClass.ofName`: whether a name is that of a mouse button.
* `Command.read`: the command in a text, none in a blank one.
* `Command.target`: what a command acts on.
-/

namespace SyntheticInput

/-- The action that a word asks for, in any letter case. A missing word asks for a click, and so
does, with a warning, any other word. -/
def Action.ofToken {σ ε : Type} : Option String → Act σ ε Action
  | none => pure .click
  | some token =>
    let word := Text.lower token
    if word = "down" then pure .down
    else if word = "up" then pure .up
    else if word = "click" then pure .click
    else do
      Act.note (.unknownAction word)
      return .click

/-- The device that a name belongs to. -/
inductive KeyClass where
  | mouse | keyboard
  deriving Repr, DecidableEq

/-- The names that are classed as mouse buttons. -/
def buttonNames : List String := ["LButton", "RButton", "MButton", "XButton1", "XButton2"]

/-- The device that a name belongs to, in any ASCII case. -/
def KeyClass.ofName (name : String) : KeyClass :=
  if buttonNames.any (Text.sameName · name) then .mouse else .keyboard

/-- A key or button by name, and what to do with it. -/
structure Command where
  key : String
  action : Action
  deriving Repr, DecidableEq

namespace Command

/-- The command in a text: its first word and the action of the second; none in a blank text. -/
def read {σ ε : Type} (text : String) : Act σ ε (Option Command) :=
  match Text.words text.toList with
  | [] => pure none
  | w :: ws => do
    let key := String.ofList w
    let action ← Action.ofToken (ws.head?.map String.ofList)
    Act.note (.commandRead key action)
    return some ⟨key, action⟩

/-- What a command acts on. The name has to stand for a key even where it is that of a button. -/
def target {σ : Type} (c : Command) (r : Resolver) : Act σ CommandError Target := do
  let id ← r.resolve c.key
  match KeyClass.ofName c.key with
  | .mouse =>
    match Button.ofName? c.key with
    | some b => return .mouse b
    | none => Act.fail (.unknownButton c.key)
  | .keyboard => return .key id (Modifier.ofName? c.key)

end Command

end SyntheticInput
