import SyntheticInput.Proofs.Device.Reliable
import SyntheticInput.Proofs.Simulator.Answered

/-!
# Commands on devices that work

Where nothing is refused, a command hands over all of its events, and its result and the modifiers
that it leaves held are fixed by the names of keys and the modifiers held before.

* `heldAfter`: the modifiers held after a command.
* `Answered.of_delivered`: what a command did, given that nothing was refused.
* `send_reliable`: what a command does to devices that work.
-/

namespace SyntheticInput

theorem Sent.eq_ok {es : List Event} {xs : List Exchange} {r : Except DeviceError Unit}
    (h : Sent es xs r) (hok : ∀ x ∈ xs, x.answer = .ok ()) : r = .ok () := by
  rw [h.ok_iff, delivered_eq_map hok, h.events_eq hok]

namespace Simulator

variable {δ : Type}

/-- The modifiers that are held after a command all of whose events are delivered. -/
def heldAfter (text : String) (s : Simulator δ) : Held :=
  match s.resolver.asks text with
  | .ok (some (t, a)) => Dispatcher.heldAfter s.held t a true
  | _ => s.held

/-- Where nothing was refused, all events of a command were handed over, and an unknown key is the
only error. -/
theorem Answered.of_delivered {s s' : Simulator δ} {text : String} {xs : List Exchange}
    {res : Except CommandError Unit} (h : Answered s text xs res s')
    (hok : ∀ x ∈ xs, x.answer = .ok ()) :
    xs.map (·.event) = s.events text ∧ res = (s.resolver.asks text).map (fun _ => ()) ∧
      s' = { s with dispatcher := ⟨s'.devices, s.heldAfter text⟩ } := by
  cases h with
  | blank ha =>
    rw [events, heldAfter, ha]
    exact ⟨rfl, rfl, rfl⟩
  | unknown ha =>
    rw [events, heldAfter, ha]
    exact ⟨rfl, rfl, rfl⟩
  | acted d ha hs =>
    have hr := hs.eq_ok hok
    subst hr
    rw [events_of_asks ha, heldAfter, ha]
    exact ⟨hs.events_eq hok, rfl, rfl⟩

/-- A command hands all of its events to devices that work. -/
theorem send_reliable [Devices δ] {good : δ → Prop} (h : Reliable good) {s : Simulator δ}
    (hs : good s.devices) (text : String) :
    let o := send text s
    (∃ xs, Passed s.devices xs o.state.devices ∧ (∀ x ∈ xs, x.answer = .ok ()) ∧
        xs.map (·.event) = s.events text) ∧
      o.result = (s.resolver.asks text).map (fun _ => ()) ∧
      o.state = { s with dispatcher := ⟨o.state.devices, s.heldAfter text⟩ } := by
  obtain ⟨xs, hp, ha⟩ := send_answered text s
  have hok := (h.passed hp hs).1
  obtain ⟨hevents, hres, hstate⟩ := ha.of_delivered hok
  exact ⟨⟨xs, hp, hok, hevents⟩, hres, hstate⟩

end Simulator

end SyntheticInput
