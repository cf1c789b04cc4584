import SyntheticInput.Key.Resolver

/-!
# Configurations

* `Settings`: the default speed and the seed of the randomness.
* `Config`: settings and key aliases.
-/

namespace SyntheticInput

/-- General settings. -/
structure Settings where
  /-- The speed of a move that gives none. -/
  defaultSpeed : Float := 1
  /-- The seed of the randomness, if it is fixed. -/
  seed : Option UInt64 := none
  deriving Repr

/-- Settings and key aliases. -/
structure Config where
  settings : Settings := {}
  /-- Further key names with their keys. -/
  keys : AliasMap := ∅

end SyntheticInput
