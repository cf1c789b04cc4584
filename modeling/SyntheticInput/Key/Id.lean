import SyntheticInput.Text.Numeral

/-!
# Key identifiers

* `KeyId`: the number by which the platform knows a key.
* `KeyId.isExtended`: the keys of the extended part of the keyboard.
-/

namespace SyntheticInput

/-- The number by which the platform knows a key. -/
abbrev KeyId := UInt16

namespace KeyId

/-- The identifier as a hexadecimal number of at least two digits. -/
def text (id : KeyId) : String := "0x" ++ Text.hexByte id.toNat

/-- The key has a twin on the number pad and is told apart from it by a flag: the navigation and
arrow keys, insert and delete, the system keys, the pad's divide, the number lock and the right
control and alternate keys. -/
def isExtended (id : KeyId) : Bool :=
  (0x21 ≤ id && id ≤ 0x28) || id == 0x2D || id == 0x2E || (0x5B ≤ id && id ≤ 0x5D) ||
    id == 0x6F || id == 0x90 || id == 0xA3 || id == 0xA5

end KeyId

end SyntheticInput
