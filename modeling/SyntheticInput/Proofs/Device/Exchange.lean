import SyntheticInput.Device.Basic

/-!
# Exchanges with devices

Handing an event to devices is an exchange: the event, the answer, and whether a cancellation was
asked for meanwhile.

* `Exchange`, `exchange`: an exchange, and the one that handing an event to devices makes.
* `delivered`: the events of some exchanges that got through.
* `Passed d xs d'`: the exchanges `xs`, one after the other, turn the devices `d` into `d'`.
* `Sent es xs r`: handing over `es` in order made the exchanges `xs` and ended in `r`.
* `deliverAll_sent`: this is what `deliverAll` does.
* `Sent.delivered_prefix`, `Sent.ok_iff`, `Sent.refused_last`: what was delivered is a first part of
  what was to be sent, all of it exactly when there is no error, and nothing follows a refusal.
-/

namespace SyntheticInput

/-- An event that was handed to devices, and what came of it. -/
structure Exchange where
  event : Event
  /-- Whether the event was delivered, and why not. -/
  answer : Except DeviceError Unit
  /-- Whether a cancellation was asked for meanwhile. -/
  cancels : Bool

/-- The events that were delivered in the course of some exchanges. -/
def delivered (xs : List Exchange) : List Event :=
  (xs.filter (·.answer.isOk)).map (·.event)

@[simp] theorem delivered_nil : delivered [] = [] := rfl

@[simp] theorem delivered_cons_ok (e : Event) (c : Bool) (xs : List Exchange) :
    delivered (⟨e, .ok (), c⟩ :: xs) = e :: delivered xs := rfl

@[simp] theorem delivered_cons_error (e : Event) (cause : DeviceError) (c : Bool)
    (xs : List Exchange) : delivered (⟨e, .error cause, c⟩ :: xs) = delivered xs := rfl

/-- Where nothing was refused, everything was delivered. -/
theorem delivered_eq_map {xs : List Exchange} (h : ∀ x ∈ xs, x.answer = .ok ()) :
    delivered xs = xs.map (·.event) := by
  unfold delivered
  rw [List.filter_eq_self.2 fun x hx => by rw [h x hx]; rfl]

variable {δ : Type} [Devices δ]

/-- The exchange that handing an event to devices makes. -/
def exchange (e : Event) (d : δ) : Exchange :=
  let a := Devices.attempt e d
  ⟨e, a.result, a.cancels⟩

theorem exchange_eq {e : Event} {d : δ} {a : Except DeviceError Unit}
    (h : (exchange e d).answer = a) : exchange e d = ⟨e, a, (exchange e d).cancels⟩ := by
  rw [← h]
  rfl

/-- The exchanges `xs`, one after the other, turn the devices `d` into `d'`. -/
inductive Passed : δ → List Exchange → δ → Prop
  | nil (d : δ) : Passed d [] d
  | cons {xs d'} (e : Event) (d : δ) :
      Passed (Devices.attempt e d).devices xs d' → Passed d (exchange e d :: xs) d'

theorem Passed.eq_of_nil {d d' : δ} (h : Passed d [] d') : d' = d := by
  cases h
  rfl

/-! ## Handing over events in order -/

/-- Handing over `es` in order, up to the first that is refused, made the exchanges `xs` and ended
in `r`. -/
inductive Sent : List Event → List Exchange → Except DeviceError Unit → Prop
  | nil : Sent [] [] (.ok ())
  | refused (e : Event) (es : List Event) (cause : DeviceError) (c : Bool) :
      Sent (e :: es) [⟨e, .error cause, c⟩] (.error cause)
  | delivered {es xs r} (e : Event) (c : Bool) :
      Sent es xs r → Sent (e :: es) (⟨e, .ok (), c⟩ :: xs) r

theorem deliverAll_sent (es : List Event) (d : δ) :
    ∃ xs, Passed d xs (deliverAll es d).state ∧ Sent es xs (deliverAll es d).result := by
  induction es generalizing d with
  | nil => exact ⟨[], .nil d, .nil⟩
  | cons e es ih =>
    cases h : (Devices.attempt e d).result with
    | ok v =>
      have hd : (deliver e d).result = .ok () := h
      obtain ⟨xs, hp, hs⟩ := ih (deliver e d).state
      refine ⟨exchange e d :: xs, ?_, ?_⟩
      · rw [deliverAll, Act.state_bind_of_ok hd]
        exact .cons e d hp
      · rw [deliverAll, Act.result_bind_of_ok hd, exchange, h]
        exact .delivered _ _ hs
    | error cause =>
      have hd : (deliver e d).result = .error cause := h
      refine ⟨[exchange e d], ?_, ?_⟩
      · rw [deliverAll, Act.state_bind_of_error hd]
        exact .cons e d (.nil _)
      · rw [deliverAll, Act.result_bind_of_error hd, exchange, h]
        exact .refused ..

namespace Sent

variable {es : List Event} {xs : List Exchange} {r : Except DeviceError Unit}

/-- What was delivered is a first part of what was to be sent. -/
theorem delivered_prefix (h : Sent es xs r) : SyntheticInput.delivered xs <+: es := by
  induction h with
  | nil => exact List.prefix_rfl
  | refused e es cause c => exact List.nil_prefix
  | delivered e c _ ih => exact List.cons_prefix_cons.2 ⟨rfl, ih⟩

/-- What was tried is a first part of what was to be sent. -/
theorem events_prefix (h : Sent es xs r) : xs.map (·.event) <+: es := by
  induction h with
  | nil => exact List.prefix_rfl
  | refused e es cause c => exact ⟨es, rfl⟩
  | delivered e c _ ih => exact List.cons_prefix_cons.2 ⟨rfl, ih⟩

/-- There is no error exactly when everything was delivered. -/
theorem ok_iff (h : Sent es xs r) : r = .ok () ↔ SyntheticInput.delivered xs = es := by
  induction h with
  | nil => simp
  | refused e es cause c => simp
  | delivered e c _ ih => simp [ih]

/-- A refusal is the last exchange, and its cause is the error. -/
theorem refused_last (h : Sent es xs r) {pre post : List Exchange} {x : Exchange}
    {cause : DeviceError} (hx : xs = pre ++ x :: post) (ha : x.answer = .error cause) :
    post = [] ∧ r = .error cause := by
  induction h generalizing pre with
  | nil => simp at hx
  | refused e es cause' c =>
    cases pre with
    | nil =>
      obtain ⟨rfl, rfl⟩ := List.cons.inj hx
      exact ⟨rfl, ha⟩
    | cons y pre => simp at hx
  | delivered e c _ ih =>
    cases pre with
    | nil =>
      obtain ⟨rfl, rfl⟩ := List.cons.inj hx
      cases ha
    | cons y pre => exact ih (List.cons.inj hx).2

/-- An error is the cause of a refusal, the last exchange. -/
theorem exists_refused (h : Sent es xs r) {cause : DeviceError} (hr : r = .error cause) :
    ∃ pre x, xs = pre ++ [x] ∧ x.answer = .error cause := by
  induction h with
  | nil => cases hr
  | refused e es cause' c => exact ⟨[], _, rfl, hr⟩
  | delivered e c _ ih =>
    obtain ⟨pre, x, rfl, hx⟩ := ih hr
    exact ⟨_ :: pre, x, rfl, hx⟩

/-- Where nothing was refused, everything was tried. -/
theorem events_eq (h : Sent es xs r) (hok : ∀ x ∈ xs, x.answer = .ok ()) :
    xs.map (·.event) = es := by
  rw [← delivered_eq_map hok, ← h.ok_iff]
  cases hr : r with
  | ok v => rfl
  | error cause =>
    obtain ⟨pre, x, rfl, hx⟩ := h.exists_refused hr
    rw [hok x (by simp)] at hx
    cases hx

end Sent

end SyntheticInput
