import Std.Data.TreeMap
import SyntheticInput.Act
import SyntheticInput.Command.Error
import SyntheticInput.Key.Names
import SyntheticInput.Text.Uppercase

/-!
# From key names to keys

A name is looked up among the built-in names, then among the aliases, and a name of one character
that is neither stands for the character's own number. Built-in names ignore ASCII case only,
aliases the case of any letter.

* `AliasMap`: names with their keys, in the order of code points.
* `Resolver`: the aliases by their lowercase form.
* `Resolver.resolve`: the key of a name.
* `Resolver.find`: the same without notes.
-/

namespace SyntheticInput

/-- Names with their keys, in the order of code points. -/
abbrev AliasMap := Std.TreeMap String KeyId

/-- The aliases by which keys can be named, under their lowercase form. -/
structure Resolver where
  aliases : AliasMap := ∅

/-- The key whose number is that of the uppercase form of a lone character. -/
def KeyId.ofCharacter? (name : String) : Option KeyId :=
  match name.toList with
  | [c] =>
    let n := (Text.upperChar c).toNat
    if n < UInt16.size then some (.ofNat n) else none
  | _ => none

namespace Resolver

/-- The resolver with the given aliases. Of two with the same lowercase form the later counts. -/
def ofAliases (aliases : List (String × KeyId)) : Resolver :=
  ⟨aliases.foldl (fun m a => m.insert (Text.lower a.1) a.2) ∅⟩

/-- The key of an alias, in any letter case. -/
def alias? (r : Resolver) (name : String) : Option KeyId := r.aliases[Text.lower name]?

/-- How the key of a name is found. -/
inductive Finding where
  | builtin (id : KeyId)
  | byAlias (id : KeyId)
  | character (id : KeyId)
  deriving Repr, DecidableEq

/-- The key that was found. -/
def Finding.id : Finding → KeyId
  | builtin id => id
  | byAlias id => id
  | character id => id

/-- Looks a name up: built in, then an alias, then a lone character. -/
def find (r : Resolver) (name : String) : Option Finding :=
  match KeyId.ofName? name with
  | some id => some (.builtin id)
  | none =>
    match r.alias? name with
    | some id => some (.byAlias id)
    | none => (KeyId.ofCharacter? name).map .character

/-- A character whose number is that of the key on the keyboard: an ASCII letter or digit. -/
def isKeyCharacter (id : KeyId) : Bool :=
  let c := Char.ofNat id.toNat
  c.isAlphanum

/-- What is reported when a name is found. -/
def Finding.notes (name : String) : Finding → List Note
  | builtin _ => []
  | byAlias id => [.aliasUsed name id]
  | character id => if isKeyCharacter id then [] else [.characterCode name id]

/-- The key of a name. -/
def resolve {σ : Type} (r : Resolver) (name : String) : Act σ CommandError KeyId := fun s =>
  match r.find name with
  | some f => ⟨.ok f.id, s, f.notes name⟩
  | none => ⟨.error (.unknownKey name), s, []⟩

end Resolver

end SyntheticInput
