import SyntheticInput.Device.Recorder
import SyntheticInput.Proofs.Device.Traced

/-!
# What recording devices show

Recording devices log the events that they accept, and their cursor goes where these take it, also
when the devices are flaky, that is, when any call may be refused on its way to them. As long as no
coordinate leaves its 32 bits, relative moves add up.

* `Recorder.log_passed`: devices that refuse nothing log all events.
* `Flaky`: devices any of whose calls may be refused or be overtaken by a request to cancel.
* `Follows cursor`: delivered events move the cursor, refused ones do not.
* `Follows.passed`: then so does every run of exchanges.
* `shift`, `Fits`: the sum of relative moves, and that no addition of theirs overflows.
* `fits_of_prefix`: none does if all sums of the first of them are in the range.
* `toInt_foldl_moveCursor`: moves that fit shift the cursor by their sum;
  `foldl_moveCursor_of_moves` for others, in arithmetic that wraps around.
-/

namespace SyntheticInput

/-! ## The log -/

namespace Recorder

variable {r r' : Recorder}

theorem refusal?_eq_none (h : r.failingKey = none) (e : Event) : r.refusal? e = none := by
  cases e with
  | key e => simp [refusal?, h]
  | mouse e => rfl

theorem attempt_of_not_refused {e : Event} (h : r.refusal? e = none) :
    Devices.attempt e r = { result := .ok (), devices := r.accept e, notes := [.recording e] } := by
  simp only [Devices.attempt, h]

theorem log_accept (h : r.logging = true) (e : Event) : (r.accept e).log = r.log ++ [e] := by
  cases e with
  | key e => simp [accept, append, h]
  | mouse e => simp [accept, append, h]

theorem accept_frame (r : Recorder) (e : Event) :
    (r.accept e).failingKey = r.failingKey ∧ (r.accept e).logging = r.logging := by
  cases e with
  | key e => simp only [accept, append]; split <;> simp
  | mouse e => simp only [accept, append]; split <;> simp

/-- Devices that refuse nothing log all events. -/
theorem log_passed {xs : List Exchange} (hp : Passed r xs r') (hf : r.failingKey = none)
    (hl : r.logging = true) :
    r'.log = r.log ++ xs.map (·.event) ∧ ∀ x ∈ xs, x.answer = .ok () := by
  induction hp with
  | nil r => simp
  | cons e r _ ih =>
    have ha := attempt_of_not_refused (refusal?_eq_none hf e)
    obtain ⟨hf', hl'⟩ := accept_frame r e
    rw [ha] at ih
    obtain ⟨hlog, hok⟩ := ih (hf'.trans hf) (hl'.trans hl)
    refine ⟨?_, ?_⟩
    · rw [hlog, log_accept hl, List.append_assoc]
      rfl
    · rintro x (_ | ⟨_, hx⟩)
      · rw [exchange, ha]
      · exact hok x hx

end Recorder

/-! ## Flaky devices -/

/-- What becomes of an event on its way to devices. -/
structure Fate where
  /-- The event is refused before it reaches the devices. -/
  refusal : Option DeviceError := none
  /-- A cancellation is asked for meanwhile. -/
  cancels : Bool := false

/-- Devices behind a link on which the `n`-th event meets with `fate n`. -/
structure Flaky (δ : Type) where
  inner : δ
  fate : Nat → Fate
  /-- How many events have been tried so far. -/
  attempts : Nat := 0

variable {δ : Type} [Devices δ]

instance : Devices (Flaky δ) where
  attempt e d :=
    let next := { d with attempts := d.attempts + 1 }
    let f := d.fate d.attempts
    match f.refusal with
    | some cause => { result := .error cause, devices := next, cancels := f.cancels }
    | none =>
      let a := Devices.attempt e d.inner
      { result := a.result
        devices := { next with inner := a.devices }
        cancels := a.cancels || f.cancels
        notes := a.notes }
  position := fun d =>
    let o := (Devices.position : Act δ DeviceError Point) d.inner
    { result := o.result, state := { d with inner := o.state }, notes := o.notes }

/-! ## The cursor -/

/-- Where the cursor is after an event. -/
def Event.moveCursor (p : Point) : Event → Point
  | key _ => p
  | mouse e => e.moveCursor p

/-- A delivered event moves the cursor, a refused one leaves it where it is. -/
def Follows (cursor : δ → Point) : Prop :=
  ∀ e d, cursor (Devices.attempt e d).devices =
    match (Devices.attempt e d).result with
    | .ok _ => e.moveCursor (cursor d)
    | .error _ => cursor d

theorem Recorder.follows : Follows Recorder.cursor := by
  intro e r
  simp only [Devices.attempt]
  cases h : r.refusal? e with
  | some cause => rfl
  | none =>
    rcases e with ke | me
    · simp only [Recorder.accept, Recorder.append]
      split <;> rfl
    · rfl

theorem Follows.flaky {cursor : δ → Point} (h : Follows cursor) :
    Follows fun d : Flaky δ => cursor d.inner := by
  intro e d
  simp only [Devices.attempt]
  cases (d.fate d.attempts).refusal with
  | some cause => rfl
  | none => exact h e d.inner

theorem Follows.traced {cursor : δ → Point} (h : Follows cursor) :
    Follows fun d : Traced δ => cursor d.inner :=
  fun e d => h e d.inner

/-- The cursor is where the delivered events have taken it. -/
theorem Follows.passed {cursor : δ → Point} (h : Follows cursor) {d d' : δ} {xs : List Exchange}
    (hp : Passed d xs d') : cursor d' = (delivered xs).foldl Event.moveCursor (cursor d) := by
  induction hp with
  | nil d => rfl
  | cons e d _ ih =>
    rw [ih, h e d, exchange]
    cases (Devices.attempt e d).result with
    | ok v => rfl
    | error cause => rfl

/-- Events that leave the cursor where it is do so together. -/
theorem foldl_moveCursor_eq {es : List Event} (h : ∀ e ∈ es, ∀ p, Event.moveCursor p e = p)
    (p : Point) : es.foldl Event.moveCursor p = p := by
  induction es generalizing p with
  | nil => rfl
  | cons e es ih =>
    rw [List.foldl_cons, h e List.mem_cons_self p]
    exact ih (fun e' he' => h e' (List.mem_cons_of_mem e he')) p

/-! ## Sums of relative moves -/

/-- The relative move of an event, along both axes. -/
def Event.shift : Event → Int × Int
  | mouse (.move dx dy) => (dx.toInt, dy.toInt)
  | _ => (0, 0)

/-- The sum of the relative moves among some events. -/
def shift : List Event → Int × Int
  | [] => (0, 0)
  | e :: es => (e.shift.1 + (shift es).1, e.shift.2 + (shift es).2)

/-- A number of 32 bits with its sign. -/
def InRange (n : Int) : Prop := Int32.minValue.toInt ≤ n ∧ n ≤ Int32.maxValue.toInt

/-- No addition overflows when the events take the cursor from `p`. -/
def Fits (p : Point) : List Event → Prop
  | [] => True
  | e :: es =>
    InRange (p.x.toInt + e.shift.1) ∧ InRange (p.y.toInt + e.shift.2) ∧ Fits (e.moveCursor p) es

theorem toInt_add_of_inRange {a b : Int32} (h : InRange (a.toInt + b.toInt)) :
    (a + b).toInt = a.toInt + b.toInt := by
  obtain ⟨hl, hu⟩ := h
  have hl' : -2147483648 ≤ a.toInt + b.toInt := hl
  have hu' : a.toInt + b.toInt ≤ 2147483647 := hu
  rw [Int32.toInt_add]
  exact Int.bmod_eq_of_le (by omega) (by omega)

/-- Relative moves fit if each of them and those before it lead to a place in the range. -/
theorem fits_of_prefix {p : Point} {es : List Event} (hm : ∀ e ∈ es, ∃ dx dy, e = .move dx dy)
    (h : ∀ pre, pre <+: es →
      InRange (p.x.toInt + (shift pre).1) ∧ InRange (p.y.toInt + (shift pre).2)) : Fits p es := by
  induction es generalizing p with
  | nil => trivial
  | cons e es ih =>
    obtain ⟨dx, dy, rfl⟩ := hm _ List.mem_cons_self
    have hfirst := h [.move dx dy] ⟨es, rfl⟩
    have hx : InRange (p.x.toInt + dx.toInt) := by simpa [shift, Event.shift] using hfirst.1
    have hy : InRange (p.y.toInt + dy.toInt) := by simpa [shift, Event.shift] using hfirst.2
    refine ⟨hx, hy, ih (fun e he => hm e (List.mem_cons_of_mem _ he)) fun pre hpre => ?_⟩
    have hnext := h (.move dx dy :: pre) (List.cons_prefix_cons.2 ⟨rfl, hpre⟩)
    have hsx : (Event.moveCursor p (.move dx dy)).x.toInt = p.x.toInt + dx.toInt :=
      toInt_add_of_inRange hx
    have hsy : (Event.moveCursor p (.move dx dy)).y.toInt = p.y.toInt + dy.toInt :=
      toInt_add_of_inRange hy
    rw [hsx, hsy, Int.add_assoc, Int.add_assoc]
    exact hnext

/-- Relative moves that fit shift the cursor by their sum. -/
theorem toInt_foldl_moveCursor {p : Point} {es : List Event}
    (hm : ∀ e ∈ es, ∃ dx dy, e = .move dx dy) (hf : Fits p es) :
    (es.foldl Event.moveCursor p).x.toInt = p.x.toInt + (shift es).1 ∧
      (es.foldl Event.moveCursor p).y.toInt = p.y.toInt + (shift es).2 := by
  induction es generalizing p with
  | nil => simp [shift]
  | cons e es ih =>
    obtain ⟨dx, dy, rfl⟩ := hm _ (List.mem_cons_self ..)
    obtain ⟨hx, hy, hf⟩ := hf
    obtain ⟨ihx, ihy⟩ := ih (fun e he => hm e (List.mem_cons_of_mem _ he)) hf
    have hsx : (Event.moveCursor p (.move dx dy)).x.toInt = p.x.toInt + dx.toInt :=
      toInt_add_of_inRange hx
    have hsy : (Event.moveCursor p (.move dx dy)).y.toInt = p.y.toInt + dy.toInt :=
      toInt_add_of_inRange hy
    rw [List.foldl_cons, shift, ihx, ihy, hsx, hsy]
    constructor
    · exact Int.add_assoc ..
    · exact Int.add_assoc ..

/-- The cursor behind some relative moves, in arithmetic that wraps around. -/
theorem foldl_moveCursor_of_moves {es : List Event} (h : ∀ e ∈ es, ∃ dx dy, e = .move dx dy)
    (p : Point) :
    es.foldl Event.moveCursor p = ⟨p.x + .ofInt (shift es).1, p.y + .ofInt (shift es).2⟩ := by
  induction es generalizing p with
  | nil => simp [shift]
  | cons e es ih =>
    obtain ⟨dx, dy, rfl⟩ := h _ List.mem_cons_self
    have hmove : Event.moveCursor p (.move dx dy) = ⟨p.x + dx, p.y + dy⟩ := rfl
    have hshift : (Event.move dx dy).shift = (dx.toInt, dy.toInt) := rfl
    rw [List.foldl_cons, ih (fun e he => h e (List.mem_cons_of_mem _ he)), hmove, shift, hshift]
    simp only [Int32.ofInt_add, Int32.ofInt_toInt, Int32.add_assoc]

end SyntheticInput
