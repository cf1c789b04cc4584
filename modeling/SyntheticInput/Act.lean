import SyntheticInput.Note

/-!
# Operations on a state

An operation takes a state, ends in a value or an error, leaves a state behind in either case and
reports notes. What was done before an error stays done.

* `Outcome`: the three results of an operation.
* `Act`: operations, with sequencing that stops at the first error.
* `bind_ok`, `bind_error`: the two ways a sequence goes on.
* `bind_pure_apply`: an operation with something made of its value.
* `result_bind_of_ok`, `state_bind_of_ok` and the like: the same apart from the notes.
-/

namespace SyntheticInput

/-- How an operation ended, the state it left and what it reported. -/
structure Outcome (σ ε α : Type) where
  result : Except ε α
  state : σ
  notes : List Note

/-- An operation on states of type `σ` that gives a value or an error. -/
def Act (σ ε α : Type) : Type := σ → Outcome σ ε α

namespace Act

variable {σ τ ε ε₁ ε₂ α β : Type}

/-- Runs an operation in a state. -/
def run (a : Act σ ε α) (s : σ) : Outcome σ ε α := a s

/-- Gives a value and does nothing. -/
protected def pure (a : α) : Act σ ε α := fun s => ⟨.ok a, s, []⟩

/-- One operation and, if it ends in a value, another that depends on it. -/
protected def bind (a : Act σ ε α) (f : α → Act σ ε β) : Act σ ε β := fun s =>
  match a s with
  | ⟨.ok v, s₁, ns⟩ =>
    let o := f v s₁
    ⟨o.result, o.state, ns ++ o.notes⟩
  | ⟨.error e, s₁, ns⟩ => ⟨.error e, s₁, ns⟩

instance : Monad (Act σ ε) where
  pure := Act.pure
  bind := Act.bind

/-- Ends in an error and does nothing. -/
def fail (e : ε) : Act σ ε α := fun s => ⟨.error e, s, []⟩

/-- Reports a note. -/
def note (n : Note) : Act σ ε Unit := fun s => ⟨.ok (), s, [n]⟩

/-- Gives the state. -/
def get : Act σ ε σ := fun s => ⟨.ok s, s, []⟩

/-- Replaces the state. -/
def set (s : σ) : Act σ ε Unit := fun _ => ⟨.ok (), s, []⟩

/-- Changes the state. -/
def modify (f : σ → σ) : Act σ ε Unit := fun s => ⟨.ok (), f s, []⟩

/-- The value that an `Except` holds, or its error. -/
def lift (r : Except ε α) : Act σ ε α := fun s => ⟨r, s, []⟩

/-- The same operation with its error wrapped. -/
def mapError (f : ε₁ → ε₂) (a : Act σ ε₁ α) : Act σ ε₂ α := fun s =>
  let o := a s
  ⟨o.result.mapError f, o.state, o.notes⟩

/-- An operation on a part of the state. -/
def zoom (part : σ → τ) (put : τ → σ → σ) (a : Act τ ε α) : Act σ ε α := fun s =>
  let o := a (part s)
  ⟨o.result, put o.state s, o.notes⟩

/-- The operation, followed by `undo` when it ends in an error; the error stays. -/
def onError (a : Act σ ε α) (undo : Act σ ε Unit) : Act σ ε α := fun s =>
  match a s with
  | ⟨.ok v, s₁, ns⟩ => ⟨.ok v, s₁, ns⟩
  | ⟨.error e, s₁, ns⟩ =>
    let o := undo s₁
    ⟨.error e, o.state, ns ++ o.notes⟩

/-- The operation with its error as a value, so that the next one runs in any case. -/
def attempt (a : Act σ ε α) : Act σ ε₁ (Except ε α) := fun s =>
  let o := a s
  ⟨.ok o.result, o.state, o.notes⟩

theorem bind_ok {a : Act σ ε α} {f : α → Act σ ε β} {s s₁ : σ} {v : α} {ns : List Note}
    (h : a s = ⟨.ok v, s₁, ns⟩) :
    (a >>= f) s = ⟨(f v s₁).result, (f v s₁).state, ns ++ (f v s₁).notes⟩ := by
  simp [bind, Act.bind, h]

theorem bind_error {a : Act σ ε α} {f : α → Act σ ε β} {s s₁ : σ} {e : ε} {ns : List Note}
    (h : a s = ⟨.error e, s₁, ns⟩) : (a >>= f) s = ⟨.error e, s₁, ns⟩ := by
  simp [bind, Act.bind, h]

@[simp] theorem pure_apply (v : α) (s : σ) : (pure v : Act σ ε α) s = ⟨.ok v, s, []⟩ := rfl

/-- What is made of the value behind an operation changes the value only. -/
theorem bind_pure_apply (a : Act σ ε α) (g : α → β) (s : σ) :
    (a >>= fun v => pure (g v)) s = ⟨(a s).result.map g, (a s).state, (a s).notes⟩ := by
  cases h : (a s).result with
  | ok v =>
    have ha : a s = ⟨.ok v, (a s).state, (a s).notes⟩ := by rw [← h]
    rw [bind_ok ha, pure_apply, List.append_nil]
    rfl
  | error e =>
    have ha : a s = ⟨.error e, (a s).state, (a s).notes⟩ := by rw [← h]
    rw [bind_error ha]
    rfl

/-! ## Results and states of sequences, whatever is reported -/

section Bind

variable {a : Act σ ε α} {f : α → Act σ ε β} {s : σ} {v : α} {e : ε}

theorem result_bind_of_ok (h : (a s).result = .ok v) :
    ((a >>= f) s).result = (f v (a s).state).result := by
  have ha : a s = ⟨.ok v, (a s).state, (a s).notes⟩ := by rw [← h]
  rw [bind_ok ha]

theorem state_bind_of_ok (h : (a s).result = .ok v) :
    ((a >>= f) s).state = (f v (a s).state).state := by
  have ha : a s = ⟨.ok v, (a s).state, (a s).notes⟩ := by rw [← h]
  rw [bind_ok ha]

theorem result_bind_of_error (h : (a s).result = .error e) :
    ((a >>= f) s).result = .error e := by
  have ha : a s = ⟨.error e, (a s).state, (a s).notes⟩ := by rw [← h]
  rw [bind_error ha]

theorem state_bind_of_error (h : (a s).result = .error e) :
    ((a >>= f) s).state = (a s).state := by
  have ha : a s = ⟨.error e, (a s).state, (a s).notes⟩ := by rw [← h]
  rw [bind_error ha]

end Bind

/-- The operation behind `get` is given the state. -/
@[simp] theorem result_get_bind (f : σ → Act σ ε β) (s : σ) :
    ((get >>= f) s).result = (f s s).result := rfl

@[simp] theorem state_get_bind (f : σ → Act σ ε β) (s : σ) :
    ((get >>= f) s).state = (f s s).state := rfl

/-- A note in front changes neither the result nor the state. -/
@[simp] theorem result_note_bind (n : Note) (f : Unit → Act σ ε β) (s : σ) :
    ((note n >>= f) s).result = (f () s).result := rfl

@[simp] theorem state_note_bind (n : Note) (f : Unit → Act σ ε β) (s : σ) :
    ((note n >>= f) s).state = (f () s).state := rfl

/-- A note behind changes neither. -/
@[simp] theorem result_bind_note (a : Act σ ε Unit) (n : Note) (s : σ) :
    ((a >>= fun _ => note n) s).result = (a s).result := by
  cases h : (a s).result with
  | ok v => rw [result_bind_of_ok h]; rfl
  | error e => rw [result_bind_of_error h]

@[simp] theorem state_bind_note (a : Act σ ε Unit) (n : Note) (s : σ) :
    ((a >>= fun _ => note n) s).state = (a s).state := by
  cases h : (a s).result with
  | ok v => rw [state_bind_of_ok h]; rfl
  | error e => rw [state_bind_of_error h]

/-- Reporting notes ends well and changes nothing. -/
theorem forM_note (ns : List Note) (s : σ) : ns.forM (note (ε := ε)) s = ⟨.ok (), s, ns⟩ := by
  induction ns with
  | nil => rfl
  | cons n ns ih =>
    have hnext := bind_ok (f := fun _ => ns.forM (note (ε := ε))) (show note n s = _ from rfl)
    rw [ih] at hnext
    exact hnext

/-- What is undone after an error does not change the error. -/
@[simp] theorem result_onError (a : Act σ ε α) (undo : Act σ ε Unit) (s : σ) :
    (a.onError undo s).result = (a s).result := by
  unfold onError
  split <;> simp_all

theorem state_onError_of_ok {a : Act σ ε α} {undo : Act σ ε Unit} {s : σ} {v : α}
    (h : (a s).result = .ok v) : (a.onError undo s).state = (a s).state := by
  unfold onError
  split <;> simp_all

theorem state_onError_of_error {a : Act σ ε α} {undo : Act σ ε Unit} {s : σ} {e : ε}
    (h : (a s).result = .error e) : (a.onError undo s).state = (undo (a s).state).state := by
  unfold onError
  split <;> simp_all

end Act

end SyntheticInput
