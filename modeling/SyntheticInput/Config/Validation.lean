import SyntheticInput.Config.Basic
import SyntheticInput.Config.Error
import SyntheticInput.Script.Basic

/-!
# Valid configurations

The default speed has to be positive and finite. Alias names have to be single words that start no
script directive, their keys are not zero, and no two of them are the same in lowercase. Names are
checked in the order of code points, and the first fault found is reported.

* `Config.aliasFault?`: what is wrong with one alias, given those before it.
* `Config.validate`: checks a configuration.
-/

namespace SyntheticInput

namespace Config

/-- The speed is one that a move can have. -/
def isSpeed (x : Float) : Bool := x.isFinite && 0 < x

/-- The word of a directive, in any ASCII case. -/
def isDirective (name : String) : Bool := Directive.all.any (Text.sameName ·.word name)

/-- What is wrong with an alias apart from the others. -/
def ownFault? (name : String) (id : KeyId) : Option AliasFault :=
  if name.toList.isEmpty || name.toList.any Text.isBlank then some .notOneWord
  else if isDirective name then some .directive
  else if id = 0 then some .zeroKey
  else none

/-- What is wrong with an alias, where the names before it have the lowercase forms `seen`. -/
def aliasFault? (seen : List String) (name : String) (id : KeyId) : Option AliasFault :=
  match ownFault? name id with
  | some fault => some fault
  | none => if seen.contains (Text.lower name) then some .duplicate else none

/-- What is reported about an alias: a built-in name is let through and has no effect. -/
def aliasNotes (name : String) (id : KeyId) : List Note :=
  if (ownFault? name id).isNone && (KeyId.ofName? name).isSome then [.aliasIgnored name] else []

/-- Checks aliases in order, up to the first that is wrong. -/
def checkAliases {σ : Type} (seen : List String) :
    List (String × KeyId) → Act σ ConfigFault Unit
  | [] => pure ()
  | (name, id) :: rest => do
    (aliasNotes name id).forM Act.note
    match aliasFault? seen name id with
    | some fault => Act.fail (.badAlias name fault)
    | none => checkAliases (Text.lower name :: seen) rest

/-- Checks a configuration: its speed, then its aliases in the order of their names. -/
def validate {σ : Type} (c : Config) : Act σ ConfigFault Unit :=
  if isSpeed c.settings.defaultSpeed then checkAliases [] c.keys.toList
  else Act.fail .speed

end Config

end SyntheticInput
