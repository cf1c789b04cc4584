import SyntheticInput.Command.Basic
import SyntheticInput.Proofs.Device.Recording
import SyntheticInput.Proofs.Dispatcher.Dispatch

/-!
# The devices that events go to

* `Event.device`, `Target.device`: the device of an event and of a target.
* `Dispatcher.device_of_mem_events`: an action sends to the device of its target.
* `filterMap_key?_eq_nil`, `filterMap_mouse?_eq_nil`: nothing is recorded on the other device.
-/

namespace SyntheticInput

/-- There are two devices. -/
theorem KeyClass.eq_of_ne {c d e : KeyClass} (hc : c ≠ e) (hd : d ≠ e) : c = d := by
  cases c <;> cases d <;> cases e <;> simp_all

/-- The device that an event goes to. -/
def Event.device : Event → KeyClass
  | .key _ => .keyboard
  | .mouse _ => .mouse

/-- The device of a target. -/
def Target.device : Target → KeyClass
  | .mouse _ => .mouse
  | .key .. => .keyboard

namespace Dispatcher

theorem device_of_mem_buttonEvents {b : Button} {a : Action} {e : Event}
    (he : e ∈ buttonEvents b a) : e.device = .mouse := by
  have hall : ∀ e ∈ buttonEvents b a, e.device = .mouse := by
    cases a <;> simp [buttonEvents, Event.device]
  exact hall e he

theorem device_of_mem_keyEvents {id : KeyId} {a : Action} {e : Event} (he : e ∈ keyEvents id a) :
    e.device = .keyboard := by
  have hall : ∀ e ∈ keyEvents id a, e.device = .keyboard := by
    cases a <;> simp [keyEvents, Event.device]
  exact hall e he

/-- The events of an action go to the device of its target. -/
theorem device_of_mem_events {h : Held} {t : Target} {a : Action} {e : Event}
    (he : e ∈ events h t a) : e.device = t.device := by
  unfold events at he
  split at he
  · exact device_of_mem_buttonEvents he
  · split at he
    · cases he
    · rw [List.mem_singleton.1 he]
      rfl
  · exact device_of_mem_keyEvents he

end Dispatcher

/-! ## What the other device records -/

section Record

variable {es : List Event}

/-- Mouse inputs are no keyboard inputs. -/
theorem filterMap_key?_eq_nil (h : ∀ e ∈ es, e.device = .mouse) :
    es.filterMap Event.key? = [] := by
  rw [List.filterMap_eq_nil_iff]
  intro e he
  cases e with
  | key e => cases h _ he
  | mouse e => rfl

/-- Nor the other way round. -/
theorem filterMap_mouse?_eq_nil (h : ∀ e ∈ es, e.device = .keyboard) :
    es.filterMap Event.mouse? = [] := by
  rw [List.filterMap_eq_nil_iff]
  intro e he
  cases e with
  | key e => rfl
  | mouse e => cases h _ he

/-- Keyboard inputs leave the cursor where it is. -/
theorem foldl_moveCursor_of_keyboard (h : ∀ e ∈ es, e.device = .keyboard) (p : Point) :
    es.foldl Event.moveCursor p = p := by
  refine foldl_moveCursor_eq (fun e he q => ?_) p
  cases e with
  | key e => rfl
  | mouse e => cases h _ he

end Record

end SyntheticInput
