import SyntheticInput.Dispatcher
import SyntheticInput.Proofs.Device.Exchange

/-!
# What one action on a target does

All that an action sends is fixed by the target, the action and the held modifiers, and all that it
does to the held modifiers is fixed by these and by whether everything was delivered.

* `Dispatcher.events`: the events of an action, were they all delivered.
* `Dispatcher.heldAfter`: the modifiers that are held afterwards.
* `result_dispatch`, `state_dispatch`: `dispatch` hands over just these events and leaves just these
  modifiers held.
* `dispatch_sent`: the same with the exchanges that it makes.
-/

namespace SyntheticInput

namespace Dispatcher

/-- The events of an action on a target while the modifiers in `h` are held. -/
def events (h : Held) : Target → Action → List Event
  | .mouse b, a => buttonEvents b a
  | .key id (some m), .down => if h.contains m then [] else [.keyDown id]
  | .key id _, a => keyEvents id a

/-- The modifiers that are held after an action on a target, where `sent` tells whether all of its
events were delivered. -/
def heldAfter (h : Held) : Target → Action → Bool → Held
  | .key _ (some m), .down, true => h.insert m
  | .key _ (some m), .up, _ => h.erase m
  | _, _, _ => h

/-- An action that was refused changes the held modifiers only if it is the release of one. -/
theorem heldAfter_of_refused {h : Held} {t : Target} {a : Action}
    (hne : ∀ id m, t = .key id (some m) → a ≠ .up) : heldAfter h t a false = h := by
  match t, a with
  | .mouse b, a => rfl
  | .key id none, a => rfl
  | .key id (some m), .down => rfl
  | .key id (some m), .click => rfl
  | .key id (some m), .up => exact absurd rfl (hne id m rfl)

variable {δ : Type} [Devices δ]

theorem result_send (es : List Event) (d : Dispatcher δ) :
    (send es d).result = (deliverAll es d.devices).result.mapError .device := rfl

theorem state_send (es : List Event) (d : Dispatcher δ) :
    (send es d).state = { d with devices := (deliverAll es d.devices).state } := rfl

/-- A press of a modifier that is not held is one event; if that is refused, the modifier counts as
not held again. -/
theorem dispatch_press {d : Dispatcher δ} {m : Modifier} (hm : d.held.contains m = false)
    (id : KeyId) :
    let o := deliverAll [.keyDown id] d.devices
    (dispatchModifier id m .down d).result = o.result.mapError .device ∧
      (dispatchModifier id m .down d).state =
        ⟨o.state, heldAfter d.held (.key id (some m)) .down o.result.isOk⟩ := by
  have ha : (activate m d : Outcome (Dispatcher δ) CommandError Bool) =
      ⟨.ok true, { d with held := d.held.insert m }, [.activation m true]⟩ := by
    rw [activate]
    simp [bind, Act.bind, Act.get, Act.set, Act.note, hm]
  simp only [dispatchModifier]
  rw [Act.result_bind_of_ok (v := true) (by rw [ha]), Act.state_bind_of_ok (v := true) (by rw [ha]),
    ha]
  simp only [↓reduceIte, Act.result_bind_note, Act.state_bind_note, Act.result_onError]
  refine ⟨result_send .., ?_⟩
  cases hr : (deliverAll [.keyDown id] d.devices).result with
  | ok v => rw [Act.state_onError_of_ok (v := v) (by rw [result_send, hr]; rfl)]; rfl
  | error e =>
    rw [Act.state_onError_of_error (e := .device e) (by rw [result_send, hr]; rfl)]
    change Dispatcher.mk _ ((d.held.insert m).erase m) = ⟨_, d.held⟩
    rw [Held.erase_insert hm]
    rfl

/-- A press of a modifier that is held is not sent. -/
theorem dispatch_press_held {d : Dispatcher δ} {m : Modifier} (hm : d.held.contains m = true)
    (id : KeyId) :
    (dispatchModifier id m .down d).result = .ok () ∧
      (dispatchModifier id m .down d).state = d := by
  have ha : (activate m d : Outcome (Dispatcher δ) CommandError Bool) =
      ⟨.ok false, d, [.activation m false]⟩ := by
    rw [activate]
    simp [bind, Act.bind, Act.get, Act.set, Act.note, hm, Held.insert_of_contains hm]
  simp only [dispatchModifier]
  rw [Act.result_bind_of_ok (v := false) (by rw [ha]),
    Act.state_bind_of_ok (v := false) (by rw [ha]), ha]
  exact ⟨rfl, rfl⟩

/-- Everything that an action on a target does. -/
theorem dispatch_eq (t : Target) (a : Action) (d : Dispatcher δ) :
    let o := deliverAll (events d.held t a) d.devices
    (dispatch t a d).result = o.result.mapError .device ∧
      (dispatch t a d).state = ⟨o.state, heldAfter d.held t a o.result.isOk⟩ := by
  match t, a with
  | .mouse b, a =>
    simp only [dispatch, dispatchButton, Act.result_bind_note, Act.state_bind_note]
    exact ⟨result_send .., state_send ..⟩
  | .key id none, a =>
    simp only [dispatch, dispatchKey, Act.result_bind_note, Act.state_bind_note]
    exact ⟨result_send .., state_send ..⟩
  | .key id (some m), .down =>
    cases hm : d.held.contains m with
    | false =>
      simp only [dispatch, events, hm, Bool.false_eq_true, ↓reduceIte]
      exact dispatch_press hm id
    | true =>
      obtain ⟨hr, hs⟩ := dispatch_press_held hm id
      simp only [dispatch, events, hm, ↓reduceIte, hr, hs]
      refine ⟨rfl, ?_⟩
      change d = ⟨d.devices, d.held.insert m⟩
      rw [Held.insert_of_contains hm]
  | .key id (some m), .up =>
    have hrel : (release m d : Outcome (Dispatcher δ) CommandError Unit) =
        ⟨.ok (), { d with held := d.held.erase m }, [.released m]⟩ := rfl
    simp only [dispatch, dispatchModifier]
    rw [Act.result_bind_of_ok (v := ()) (by rw [hrel]),
      Act.state_bind_of_ok (v := ()) (by rw [hrel]), hrel, Act.result_bind_note, Act.state_bind_note]
    exact ⟨result_send .., state_send ..⟩
  | .key id (some m), .click =>
    simp only [dispatch, dispatchModifier, Act.result_bind_note, Act.state_bind_note]
    exact ⟨result_send .., state_send ..⟩

theorem result_dispatch (t : Target) (a : Action) (d : Dispatcher δ) :
    (dispatch t a d).result =
      (deliverAll (events d.held t a) d.devices).result.mapError .device :=
  (dispatch_eq t a d).1

theorem state_dispatch (t : Target) (a : Action) (d : Dispatcher δ) :
    (dispatch t a d).state =
      ⟨(deliverAll (events d.held t a) d.devices).state,
        heldAfter d.held t a (deliverAll (events d.held t a) d.devices).result.isOk⟩ :=
  (dispatch_eq t a d).2

/-- An action makes the exchanges of its events, up to the first that is refused. -/
theorem dispatch_sent (t : Target) (a : Action) (d : Dispatcher δ) :
    ∃ xs r, Passed d.devices xs (dispatch t a d).state.devices ∧ Sent (events d.held t a) xs r ∧
      (dispatch t a d).result = r.mapError .device ∧
      (dispatch t a d).state.held = heldAfter d.held t a r.isOk := by
  obtain ⟨xs, hp, hs⟩ := deliverAll_sent (events d.held t a) d.devices
  refine ⟨xs, _, ?_, hs, result_dispatch t a d, ?_⟩
  · rw [state_dispatch]
    exact hp
  · rw [state_dispatch]

end Dispatcher

end SyntheticInput
