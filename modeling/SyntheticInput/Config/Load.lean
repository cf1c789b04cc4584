import SyntheticInput.Config.Validation
import SyntheticInput.Toml.Document

/-!
# Reading configurations

* `Config.ofToml?`: the configuration that a TOML document describes.
* `Config.read`: reads and checks the text of a configuration.
* `Config.load`: the same for the bytes of a file.
* `Config.loadDefault`: the default file, or the built-in configuration where there is none.
-/

namespace SyntheticInput

open Toml (Value Entries)

/-- The speed that a value gives; an integer counts as the double nearest to it. -/
def speedOf? : Value → Option Float
  | .float x => some x
  | .integer i => some (Decimal.nearest (i < 0) i.natAbs 1)
  | _ => none

/-- The seed that a value gives. -/
def seedOf? : Value → Option UInt64
  | .integer i => if 0 ≤ i then some (.ofNat i.toNat) else none
  | _ => none

/-- The key that a value gives. -/
def keyOf? : Value → Option KeyId
  | .integer i => if 0 ≤ i ∧ i < UInt16.size then some (.ofNat i.toNat) else none
  | _ => none

/-- What `read` makes of an optional value: missing is fine, unreadable is not. -/
def optionally? {α : Type} (read : Value → Option α) : Option Value → Option (Option α)
  | none => some none
  | some v => (read v).map some

/-- Settings from the speed and the seed, each of which may be missing. -/
def Settings.ofValues? (speed seed : Option Value) : Option Settings := do
  let speed ← optionally? speedOf? speed
  let seed ← optionally? seedOf? seed
  some { defaultSpeed := speed.getD 1, seed }

/-- The settings that a value describes: a table, an array with the speed and the seed in this
order, or a date, which names nothing. -/
def Settings.ofToml? : Value → Option Settings
  | .table _ es => ofValues? (es.lookup "default_speed") (es.lookup "seed")
  | .array items => ofValues? items[0]? items[1]?
  | .moment => some {}
  | _ => none

/-- The aliases that a table describes. -/
def AliasMap.ofEntries? : Entries → AliasMap → Option AliasMap
  | [], m => some m
  | (name, v) :: rest, m => do ofEntries? rest (m.insert name (← keyOf? v))

/-- The aliases that a value describes. -/
def AliasMap.ofToml? : Value → Option AliasMap
  | .table _ es => ofEntries? es ∅
  | _ => none

namespace Config

/-- The configuration that the table of a document describes; what it does not name is left at its
default, and what else it names is ignored. -/
def ofToml? (es : Entries) : Option Config := do
  let settings ←
    match es.find? "settings" with
    | some v => Settings.ofToml? v
    | none => some {}
  let keys ←
    match es.find? "keys" with
    | some v => AliasMap.ofToml? v
    | none => some ∅
  some { settings, keys }

variable {σ : Type}

/-- Reads the text of a configuration and checks it. -/
def read (text : String) : Act σ ConfigError Config := do
  match Toml.parse? text >>= ofToml? with
  | none => Act.fail .malformed
  | some c =>
    Act.note (.configSpeed c.settings.defaultSpeed)
    Act.note (.configSeed c.settings.seed)
    Act.note (.configAliases c.keys.size)
    Act.mapError .invalid c.validate
    return c

/-- Where files are read: the bytes under a path, or why there are none. -/
abbrev Files := String → Except FileError ByteArray

/-- Reads a configuration file and checks it. -/
def load (files : Files) (path : String) : Act σ ConfigError Config := do
  Act.note (.configLoading path)
  match files path with
  | .error cause => Act.fail (.unreadable cause)
  | .ok bytes =>
    match String.fromUTF8? bytes with
    | none => Act.fail (.unreadable .notUtf8)
    | some text =>
      let c ← read text
      Act.note .configPassed
      return c

/-- The path of the default configuration file. -/
def defaultPath : String := "configs/default.toml"

/-- The default file is there, readable or not. -/
def defaultExists (files : Files) : Bool :=
  match files defaultPath with
  | .ok _ => true
  | .error cause => !cause.isMissing

/-- Reads the default file, or gives the built-in configuration where there is none. -/
def loadDefault (files : Files) : Act σ ConfigError Config := do
  if defaultExists files then load files defaultPath
  else
    Act.note (.configMissing defaultPath)
    return {}

end Config

end SyntheticInput
