import SyntheticInput.Text.AsciiCase

/-!
# Modifier keys and which of them are held

* `Modifier`: the four keys whose presses are remembered.
* `Held`: the set of modifiers that were pressed and not yet released.
* `contains_insert`, `contains_erase`: what the two updates do to membership.
* `insert_of_contains`, `erase_insert`: when they change nothing or cancel out.
-/

namespace SyntheticInput

/-- A key whose press is remembered until its release. -/
inductive Modifier where
  | shift | ctrl | alt | win
  deriving Repr, DecidableEq

namespace Modifier

/-- All modifiers, in the order in which held ones are listed. -/
def all : List Modifier := [shift, ctrl, alt, win]

/-- The name of a modifier in key commands. -/
def name : Modifier → String
  | shift => "Shift"
  | ctrl => "Ctrl"
  | alt => "Alt"
  | win => "Win"

/-- The modifier with the given name, in any ASCII case. -/
def ofName? (name : String) : Option Modifier := all.find? fun m => Text.sameName m.name name

theorem mem_all (m : Modifier) : m ∈ all := by cases m <;> decide

end Modifier

/-- The set of modifiers that were pressed and not yet released. -/
structure Held where
  shift : Bool := false
  ctrl : Bool := false
  alt : Bool := false
  win : Bool := false
  deriving Repr, DecidableEq

namespace Held

/-- No modifier is held. -/
def none : Held := {}

/-- Whether `m` is held. -/
def contains (h : Held) : Modifier → Bool
  | .shift => h.shift
  | .ctrl => h.ctrl
  | .alt => h.alt
  | .win => h.win

/-- Sets whether `m` is held. -/
def put (h : Held) (m : Modifier) (b : Bool) : Held :=
  match m with
  | .shift => { h with shift := b }
  | .ctrl => { h with ctrl := b }
  | .alt => { h with alt := b }
  | .win => { h with win := b }

/-- `m` is held from now on. -/
def insert (h : Held) (m : Modifier) : Held := h.put m true

/-- `m` is no longer held. -/
def erase (h : Held) (m : Modifier) : Held := h.put m false

/-- The held modifiers, in the order of `Modifier.all`. -/
def toList (h : Held) : List Modifier := Modifier.all.filter h.contains

@[simp] theorem contains_none (m : Modifier) : none.contains m = false := by cases m <;> rfl

theorem contains_put (h : Held) (m k : Modifier) (b : Bool) :
    (h.put m b).contains k = if k = m then b else h.contains k := by
  cases m <;> cases k <;> simp [put, contains]

@[simp] theorem contains_insert (h : Held) (m k : Modifier) :
    (h.insert m).contains k = (k = m || h.contains k) := by
  by_cases hk : k = m <;> simp [insert, contains_put, hk]

@[simp] theorem contains_erase (h : Held) (m k : Modifier) :
    (h.erase m).contains k = (k ≠ m && h.contains k) := by
  by_cases hk : k = m <;> simp [erase, contains_put, hk]

@[simp] theorem mem_toList {h : Held} {m : Modifier} : m ∈ h.toList ↔ h.contains m = true := by
  simp [toList, Modifier.mem_all]

/-- Two sets with the same members are equal. -/
theorem ext_contains {a b : Held} (h : ∀ m, a.contains m = b.contains m) : a = b := by
  cases a
  cases b
  simp_all only [contains, Held.mk.injEq]
  exact ⟨h .shift, h .ctrl, h .alt, h .win⟩

theorem insert_of_contains {h : Held} {m : Modifier} (hm : h.contains m = true) :
    h.insert m = h := by
  apply ext_contains
  intro k
  by_cases hk : k = m <;> simp_all

theorem erase_insert {h : Held} {m : Modifier} (hm : h.contains m = false) :
    (h.insert m).erase m = h := by
  apply ext_contains
  intro k
  by_cases hk : k = m <;> simp_all

end Held

end SyntheticInput
