import SyntheticInput.Proofs.Device.Exchange

/-!
# Devices that keep a trace

`Traced δ` are devices of type `δ` that also keep every exchange. The trace steers nothing, so what
holds of traced devices of every type holds of all devices, however their calls fail.

* `Traced`, `Traced.since`: the devices, and the exchanges since an earlier state of theirs.
* `Passed.trace_eq`, `Passed.since_eq`: the trace grows by the exchanges that are made.
* `inner_deliverAll`: the devices inside are handed the same events and answer alike.
-/

namespace SyntheticInput

/-- Devices that keep every exchange with them, in order. -/
structure Traced (δ : Type) where
  inner : δ
  trace : List Exchange := []

variable {δ : Type} [Devices δ]

instance : Devices (Traced δ) where
  attempt e d :=
    let a := Devices.attempt e d.inner
    { result := a.result
      devices := { inner := a.devices, trace := d.trace ++ [exchange e d.inner] }
      cancels := a.cancels
      notes := a.notes }
  position := fun d =>
    let o := (Devices.position : Act δ DeviceError Point) d.inner
    { result := o.result, state := { d with inner := o.state }, notes := o.notes }

/-- The exchanges of `d` since it was `d₀`. -/
def Traced.since {δ : Type} (d₀ d : Traced δ) : List Exchange := d.trace.drop d₀.trace.length

theorem Passed.trace_eq {d d' : Traced δ} {xs : List Exchange} (h : Passed d xs d') :
    d'.trace = d.trace ++ xs := by
  induction h with
  | nil d => exact (List.append_nil _).symm
  | cons e d _ ih =>
    rw [ih]
    exact List.append_assoc ..

theorem Passed.since_eq {d d' : Traced δ} {xs : List Exchange} (h : Passed d xs d') :
    d.since d' = xs := by
  rw [Traced.since, h.trace_eq, List.drop_left]

/-- The trace steers nothing: traced devices deliver what the devices inside would deliver alone. -/
theorem inner_deliverAll (es : List Event) (d : Traced δ) :
    (deliverAll es d).result = (deliverAll es d.inner).result ∧
      (deliverAll es d).state.inner = (deliverAll es d.inner).state := by
  induction es generalizing d with
  | nil => exact ⟨rfl, rfl⟩
  | cons e es ih =>
    have hst : (deliver e d).state.inner = (deliver e d.inner).state := rfl
    cases h : (deliver e d.inner).result with
    | ok v =>
      have hd : (deliver e d).result = .ok v := h
      simp only [deliverAll]
      rw [Act.result_bind_of_ok hd, Act.state_bind_of_ok hd, Act.result_bind_of_ok h,
        Act.state_bind_of_ok h, ← hst]
      exact ih _
    | error cause =>
      have hd : (deliver e d).result = .error cause := h
      simp only [deliverAll]
      rw [Act.result_bind_of_error hd, Act.state_bind_of_error hd, Act.result_bind_of_error h,
        Act.state_bind_of_error h]
      exact ⟨rfl, hst⟩

end SyntheticInput
