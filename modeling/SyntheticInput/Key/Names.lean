import SyntheticInput.Key.Id
import SyntheticInput.Text.AsciiCase

/-!
# The built-in key names

* `keyNames`: every built-in name, in folded form, with its key.
* `KeyId.ofName?`: the key with a built-in name, in any ASCII case.
* `KeyId.isExtended_iff`: which of the names stand for keys of the extended part.
-/

namespace SyntheticInput

/-- The mouse buttons, and the break key that shares their block. -/
def mouseNames : List (String × KeyId) := [
  ("lbutton", 0x01), ("rbutton", 0x02), ("cancel", 0x03), ("mbutton", 0x04), ("xbutton1", 0x05),
  ("xbutton2", 0x06)]

/-- Editing, locking and navigation keys. -/
def controlNames : List (String × KeyId) := [
  ("backspace", 0x08), ("tab", 0x09), ("clear", 0x0C), ("enter", 0x0D), ("shift", 0x10),
  ("ctrl", 0x11), ("alt", 0x12), ("pause", 0x13), ("capslock", 0x14), ("esc", 0x1B),
  ("space", 0x20), ("pageup", 0x21), ("pagedown", 0x22), ("end", 0x23), ("home", 0x24),
  ("left", 0x25), ("up", 0x26), ("right", 0x27), ("down", 0x28), ("select", 0x29),
  ("print", 0x2A), ("execute", 0x2B), ("printscreen", 0x2C), ("insert", 0x2D), ("delete", 0x2E),
  ("help", 0x2F)]

/-- The digits. -/
def digitNames : List (String × KeyId) := [
  ("0", 0x30), ("1", 0x31), ("2", 0x32), ("3", 0x33), ("4", 0x34), ("5", 0x35), ("6", 0x36),
  ("7", 0x37), ("8", 0x38), ("9", 0x39)]

/-- The letters. -/
def letterNames : List (String × KeyId) := [
  ("a", 0x41), ("b", 0x42), ("c", 0x43), ("d", 0x44), ("e", 0x45), ("f", 0x46), ("g", 0x47),
  ("h", 0x48), ("i", 0x49), ("j", 0x4A), ("k", 0x4B), ("l", 0x4C), ("m", 0x4D), ("n", 0x4E),
  ("o", 0x4F), ("p", 0x50), ("q", 0x51), ("r", 0x52), ("s", 0x53), ("t", 0x54), ("u", 0x55),
  ("v", 0x56), ("w", 0x57), ("x", 0x58), ("y", 0x59), ("z", 0x5A)]

/-- The system and menu keys. -/
def systemNames : List (String × KeyId) := [
  ("win", 0x5B), ("rwin", 0x5C), ("apps", 0x5D)]

/-- The number pad. -/
def padNames : List (String × KeyId) := [
  ("num0", 0x60), ("num1", 0x61), ("num2", 0x62), ("num3", 0x63), ("num4", 0x64), ("num5", 0x65),
  ("num6", 0x66), ("num7", 0x67), ("num8", 0x68), ("num9", 0x69), ("multiply", 0x6A),
  ("add", 0x6B), ("separator", 0x6C), ("subtract", 0x6D), ("decimal", 0x6E), ("divide", 0x6F)]

/-- The function keys. -/
def functionNames : List (String × KeyId) := [
  ("f1", 0x70), ("f2", 0x71), ("f3", 0x72), ("f4", 0x73), ("f5", 0x74), ("f6", 0x75),
  ("f7", 0x76), ("f8", 0x77), ("f9", 0x78), ("f10", 0x79), ("f11", 0x7A), ("f12", 0x7B),
  ("f13", 0x7C), ("f14", 0x7D), ("f15", 0x7E), ("f16", 0x7F), ("f17", 0x80), ("f18", 0x81),
  ("f19", 0x82), ("f20", 0x83), ("f21", 0x84), ("f22", 0x85), ("f23", 0x86), ("f24", 0x87)]

/-- The number and scroll locks. -/
def lockNames : List (String × KeyId) := [
  ("numlock", 0x90), ("scrolllock", 0x91)]

/-- Punctuation, by its place on the US layout. -/
def punctuationNames : List (String × KeyId) := [
  (";", 0xBA), ("=", 0xBB), (",", 0xBC), ("-", 0xBD), (".", 0xBE), ("/", 0xBF), ("`", 0xC0),
  ("[", 0xDB), ("\\", 0xDC), ("]", 0xDD), ("'", 0xDE)]

/-- Browser, volume, media and launch keys. -/
def mediaNames : List (String × KeyId) := [
  ("browserback", 0xA6), ("browserforward", 0xA7), ("browserrefresh", 0xA8),
  ("browserstop", 0xA9), ("browsersearch", 0xAA), ("browserfavorites", 0xAB),
  ("browserhome", 0xAC), ("volumemute", 0xAD), ("volumedown", 0xAE), ("volumeup", 0xAF),
  ("medianext", 0xB0), ("mediaprev", 0xB1), ("mediastop", 0xB2), ("mediaplaypause", 0xB3),
  ("launchmail", 0xB4), ("launchmediaselect", 0xB5), ("launchapp1", 0xB6), ("launchapp2", 0xB7)]

/-- Every built-in name, in folded form, with its key. -/
def keyNames : List (String × KeyId) :=
  mouseNames ++ controlNames ++ digitNames ++ letterNames ++ systemNames ++ padNames ++
    functionNames ++ lockNames ++ punctuationNames ++ mediaNames

/-- The key with a built-in name, in any ASCII case. -/
def KeyId.ofName? (name : String) : Option KeyId := keyNames.lookup (Text.foldAscii name)

/-- The names of the keys of the extended part. -/
def extendedNames : List String := [
  "pageup", "pagedown", "end", "home", "left", "up", "right", "down", "insert", "delete", "win",
  "rwin", "apps", "divide", "numlock"]

/-- A key belongs to the extended part if one of these names stands for it, or if it is the right
control or the right alternate key, which have no names. No other key does. -/
theorem KeyId.isExtended_iff (id : KeyId) :
    id.isExtended = true ↔
      (∃ name ∈ extendedNames, ofName? name = some id) ∨ id = 0xA3 ∨ id = 0xA5 := by
  have hnamed : extendedNames.filterMap ofName? =
      [0x21, 0x22, 0x23, 0x24, 0x25, 0x26, 0x27, 0x28, 0x2D, 0x2E, 0x5B, 0x5C, 0x5D, 0x6F, 0x90] := by
    decide
  rw [← List.mem_filterMap, hnamed]
  simp only [isExtended, List.mem_cons, List.not_mem_nil, or_false, Bool.or_eq_true,
    Bool.and_eq_true, decide_eq_true_eq, beq_iff_eq, UInt16.le_iff_toNat_le, ← UInt16.toNat_inj,
    UInt16.reduceToNat]
  omega

end SyntheticInput
