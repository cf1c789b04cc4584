import SyntheticInput.Device.Recorder
import SyntheticInput.Proofs.Device.Recording

/-!
# Devices that work

Whether devices refuse an event depends on their state. They work in a set of states when they take
every event there and stay in the set.

* `Reliable good`: in the states of `good`, devices work.
* `Reliable.passed`: then no exchange of a run is refused.
* `Recorder.reliable`: recording devices work while no key is made to fail.
* `Recorder.passed_moves`: they take relative moves in every state.
* `Recorder.foldl_accept`, `Recorder.passed_eq`: what they have recorded afterwards.
* `Recorder.Quiet.passed`: where no call fails and there is a log, the log takes every event.
-/

namespace SyntheticInput

variable {δ : Type} [Devices δ]

/-- In the states of `good`, devices take every event, and they stay in these states. -/
structure Reliable (good : δ → Prop) : Prop where
  takes : ∀ e d, good d → (Devices.attempt e d).result = .ok ()
  stays : ∀ e d, good d → good (Devices.attempt e d).devices

namespace Reliable

variable {good : δ → Prop}

/-- Nothing is refused, however many events are handed over. -/
theorem passed (h : Reliable good) {d d' : δ} {xs : List Exchange} (hp : Passed d xs d')
    (hd : good d) : (∀ x ∈ xs, x.answer = .ok ()) ∧ good d' := by
  induction hp with
  | nil d => exact ⟨by simp, hd⟩
  | cons e d _ ih =>
    obtain ⟨hok, hlast⟩ := ih (h.stays e d hd)
    refine ⟨?_, hlast⟩
    rintro x (_ | ⟨_, hx⟩)
    · exact h.takes e d hd
    · exact hok x hx

/-- Keeping a trace changes nothing about it. -/
theorem traced (h : Reliable good) : Reliable fun d : Traced δ => good d.inner where
  takes := fun e d hd => h.takes e d.inner hd
  stays := fun e d hd => h.stays e d.inner hd

end Reliable

namespace Recorder

variable {r r' : Recorder}

/-- Recording devices work while no key is made to fail. -/
theorem reliable : Reliable fun r : Recorder => r.failingKey = none where
  takes := by
    intro e r hr
    rw [attempt_of_not_refused (refusal?_eq_none hr e)]
  stays := by
    intro e r hr
    rw [attempt_of_not_refused (refusal?_eq_none hr e)]
    exact (accept_frame r e).1.trans hr

/-- Recording devices take every move, and nobody asks them for a cancellation. -/
theorem passed_moves {xs : List Exchange} (hp : Passed r xs r')
    (hm : ∀ x ∈ xs, ∃ dx dy, x.event = .move dx dy) :
    ∀ x ∈ xs, x.answer = .ok () ∧ x.cancels = false := by
  induction hp with
  | nil r => simp
  | cons e r _ ih =>
    obtain ⟨dx, dy, rfl⟩ : ∃ dx dy, e = .move dx dy := hm _ List.mem_cons_self
    exact List.forall_mem_cons.2
      ⟨⟨rfl, rfl⟩, ih fun x hx => hm x (List.mem_cons_of_mem _ hx)⟩

/-- Events that are accepted go to the record of their device and to the log, and take the cursor
along. -/
theorem foldl_accept (es : List Event) (r : Recorder) :
    es.foldl accept r =
      { r with
        keyboard := r.keyboard ++ es.filterMap Event.key?
        mouse := r.mouse ++ es.filterMap Event.mouse?
        cursor := es.foldl Event.moveCursor r.cursor
        log := if r.logging then r.log ++ es else r.log } := by
  induction es generalizing r with
  | nil => simp
  | cons e es ih =>
    rw [List.foldl_cons, ih]
    cases e with
    | key e =>
      have hkey : (Event.key e :: es).filterMap Event.key? = e :: es.filterMap Event.key? := rfl
      have hmouse : (Event.key e :: es).filterMap Event.mouse? = es.filterMap Event.mouse? := rfl
      rw [hkey, hmouse]
      simp only [accept, append]
      split <;> simp_all [Event.moveCursor]
    | mouse e =>
      have hkey : (Event.mouse e :: es).filterMap Event.key? = es.filterMap Event.key? := rfl
      have hmouse : (Event.mouse e :: es).filterMap Event.mouse? = e :: es.filterMap Event.mouse? :=
        rfl
      rw [hkey, hmouse]
      simp only [accept, append]
      split <;> simp_all [Event.moveCursor]

/-- Recording devices that work have accepted just the events that they were handed. -/
theorem passed_eq {xs : List Exchange} (hp : Passed r xs r') (hr : r.failingKey = none) :
    r' = (xs.map (·.event)).foldl accept r := by
  induction hp with
  | nil r => rfl
  | cons e r _ ih =>
    have ha := attempt_of_not_refused (refusal?_eq_none hr e)
    rw [ha] at ih
    exact ih ((accept_frame r e).1.trans hr)

/-- Recording devices with a combined log, of which no call fails. -/
structure Quiet (r : Recorder) : Prop where
  failingKey : r.failingKey = none
  refusesPosition : r.refusesPosition = false
  logging : r.logging = true

/-- They log every event, and none of their calls fails afterwards. -/
theorem Quiet.passed (h : r.Quiet) {xs : List Exchange} (hp : Passed r xs r') :
    r'.Quiet ∧ r'.log = r.log ++ xs.map (·.event) ∧ ∀ x ∈ xs, x.answer = .ok () := by
  have hr := passed_eq hp h.failingKey
  rw [foldl_accept, if_pos h.logging] at hr
  refine ⟨?_, ?_, (reliable.passed hp h.failingKey).1⟩
  · rw [hr]
    exact ⟨h.failingKey, h.refusesPosition, h.logging⟩
  · rw [hr]

end Recorder

end SyntheticInput
