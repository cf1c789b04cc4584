import SyntheticInput.Proofs.Trajectory.Emitted

/-!
# The account of an emitted trajectory

The exchanges that an emission made tell in front of which steps the token was set, and with that
they tell how many steps were run, what was sent, and where the cursor is.

* `SetBefore`, `StopsAt`: whether the token is set in front of a step, and the first such step.
* `Accounted`: what the steps, the exchanges and the result of an emission have to do with each
  other.
* `Emitted.accounted`: every emission is accounted for.
* `Accounted.swallowed`, `Accounted.cancelled_iff`: what becomes of a token that is set.
* `Accounted.exists_delivered_eq`: what was delivered, however an emission ends.
* `Accounted.undisturbed`: where nobody interferes, all steps are run, or none.
* `run_accounted`: so is every run of a trajectory, down to the cursor of recording devices.
-/

namespace SyntheticInput

namespace Stage

/-! ## The token in front of a step -/

section Token

variable {token : Bool} {step : Step} {ss : List Step} {x : Exchange} {xs : List Exchange}

/-- The token is set in front of step `i`: it was set from the start, or a cancellation was asked
for during the move of a step before. -/
def SetBefore (token : Bool) (ss : List Step) (xs : List Exchange) (i : Nat) : Prop :=
  token = true ∨ ∃ x ∈ xs.take (moves (ss.take i)).length, x.cancels = true

/-- Step `k` is the first to find the token set, or no step does and there are `k` steps. -/
structure StopsAt (token : Bool) (ss : List Step) (xs : List Exchange) (k : Nat) : Prop where
  le_length : k ≤ ss.length
  not_before : ∀ i < k, ¬ SetBefore token ss xs i
  set : k < ss.length → SetBefore token ss xs k

theorem setBefore_zero : SetBefore token ss xs 0 ↔ token = true := by
  simp [SetBefore]

theorem setBefore_succ_of_still (h : step.isMove = false) (i : Nat) :
    SetBefore token (step :: ss) xs (i + 1) ↔ SetBefore token ss xs i := by
  unfold SetBefore
  rw [List.take_succ_cons, moves_cons_of_not_isMove h]

theorem setBefore_succ_of_move (h : step.isMove = true) (i : Nat) :
    SetBefore false (step :: ss) (x :: xs) (i + 1) ↔ SetBefore x.cancels ss xs i := by
  unfold SetBefore
  rw [List.take_succ_cons, moves_cons_of_isMove h, List.length_cons, List.take_succ_cons]
  simp

/-- Behind a step that did not find the token set, counting goes on. -/
theorem StopsAt.succ {token' : Bool} {xs' : List Exchange} {k : Nat}
    (h : ∀ i, SetBefore false (step :: ss) xs' (i + 1) ↔ SetBefore token' ss xs i)
    (hk : StopsAt token' ss xs k) : StopsAt false (step :: ss) xs' (k + 1) where
  le_length := Nat.succ_le_succ hk.le_length
  not_before := by
    intro i hi
    cases i with
    | zero => simp [setBefore_zero]
    | succ i =>
      rw [h i]
      exact hk.not_before i (Nat.lt_of_succ_lt_succ hi)
  set := fun hlt => (h k).2 (hk.set (Nat.lt_of_succ_lt_succ hlt))

/-- There is just one such step. -/
theorem StopsAt.unique {k k' : Nat} (h : StopsAt token ss xs k) (h' : StopsAt token ss xs k') :
    k = k' := by
  rcases Nat.lt_trichotomy k k' with hlt | heq | hgt
  · exact absurd (h.set (Nat.lt_of_lt_of_le hlt h'.le_length)) (h'.not_before k hlt)
  · exact heq
  · exact absurd (h'.set (Nat.lt_of_lt_of_le hgt h.le_length)) (h.not_before k' hgt)

end Token

/-! ## Accounts -/

/-- What the steps `ss`, the exchanges `xs` and the result of an emission have to do with each
other. -/
structure Accounted (token : Bool) (ss : List Step) (xs : List Exchange)
    (res : Except DeviceError Report) : Prop where
  /-- Without an error, the steps in front of the first that found the token set were run. Their
  moves, and no others, were sent and delivered in order. -/
  finished : ∀ report, res = .ok report →
    StopsAt token ss xs report.stepsRun ∧
      (report.cancelled = true ↔ report.stepsRun < ss.length) ∧
      xs.map (·.event) = moves (ss.take report.stepsRun) ∧
      (∀ x ∈ xs, x.answer = .ok ()) ∧
      report.movesEmitted = (moves (ss.take report.stepsRun)).length
  /-- An error is the cause of the only refusal, that of the last move that was sent. The moves of
  the steps before were delivered in order, and no step so far found the token set. -/
  refused : ∀ cause, res = .error cause →
    ∃ pre step post ys c, ss = pre ++ step :: post ∧ step.isMove = true ∧
      xs = ys ++ [⟨step.move, .error cause, c⟩] ∧
      ys.map (·.event) = moves pre ∧ (∀ y ∈ ys, y.answer = .ok ()) ∧
      ∀ i ≤ pre.length, ¬ SetBefore token ss xs i
  /-- Nothing but relative moves is sent. -/
  only_moves : ∀ x ∈ xs, ∃ dx dy, x.event = .move dx dy

namespace Emitted

variable {token : Bool} {r : Report} {ss : List Step} {xs : List Exchange}
  {res : Except DeviceError Report}

/-- An emission without an error adds the steps it ran, and their moves, to the report. -/
theorem finished (h : Emitted token r ss xs res) {report : Report} (hres : res = .ok report) :
    ∃ k, StopsAt token ss xs k ∧
      report = ⟨r.stepsRun + k, r.movesEmitted + (moves (ss.take k)).length,
        r.cancelled || decide (k < ss.length)⟩ ∧
      xs.map (·.event) = moves (ss.take k) ∧ ∀ x ∈ xs, x.answer = .ok () := by
  induction h with
  | done token r =>
    cases hres
    refine ⟨0, ⟨Nat.le_refl _, by simp, by simp⟩, by simp, rfl, by simp⟩
  | cancelled r step ss =>
    cases hres
    refine ⟨0, ⟨Nat.zero_le _, by simp, fun _ => setBefore_zero.2 rfl⟩, by simp, rfl, by simp⟩
  | @still r step ss xs res hm _ ih =>
    obtain ⟨k, hk, hr, he, ha⟩ := ih hres
    refine ⟨k + 1, hk.succ (setBefore_succ_of_still hm), ?_, ?_, ha⟩
    · rw [hr, List.take_succ_cons, moves_cons_of_not_isMove hm]
      simp [Nat.add_assoc, Nat.add_comm 1]
    · rw [he, List.take_succ_cons, moves_cons_of_not_isMove hm]
  | @moved r step ss xs res token hm _ ih =>
    obtain ⟨k, hk, hr, he, ha⟩ := ih hres
    refine ⟨k + 1, hk.succ (setBefore_succ_of_move hm), ?_, ?_, ?_⟩
    · rw [hr, List.take_succ_cons, moves_cons_of_isMove hm]
      simp [Nat.add_assoc, Nat.add_comm 1]
    · rw [List.map_cons, he, List.take_succ_cons, moves_cons_of_isMove hm]
    · rintro x (_ | ⟨_, hx⟩)
      · rfl
      · exact ha x hx
  | refused r ss cause token hm => cases hres

/-- An emission with an error stopped at the refusal of a move. -/
theorem refused_at (h : Emitted token r ss xs res) {cause : DeviceError}
    (hres : res = .error cause) :
    ∃ pre step post ys c, ss = pre ++ step :: post ∧ step.isMove = true ∧
      xs = ys ++ [⟨step.move, .error cause, c⟩] ∧
      ys.map (·.event) = moves pre ∧ (∀ y ∈ ys, y.answer = .ok ()) ∧
      ∀ i ≤ pre.length, ¬ SetBefore token ss xs i := by
  induction h with
  | done token r => cases hres
  | cancelled r step ss => cases hres
  | @still r step ss xs res hm _ ih =>
    obtain ⟨pre, bad, post, ys, c, rfl, hb, hx, he, ha, hs⟩ := ih hres
    refine ⟨step :: pre, bad, post, ys, c, rfl, hb, hx, ?_, ha, ?_⟩
    · rw [he, moves_cons_of_not_isMove hm]
    · intro i hi
      cases i with
      | zero => simp [setBefore_zero]
      | succ i =>
        rw [setBefore_succ_of_still hm]
        exact hs i (Nat.le_of_succ_le_succ hi)
  | @moved r step ss xs res token hm _ ih =>
    obtain ⟨pre, bad, post, ys, c, rfl, hb, hx, he, ha, hs⟩ := ih hres
    refine ⟨step :: pre, bad, post, ⟨step.move, .ok (), token⟩ :: ys, c, rfl, hb, ?_, ?_, ?_, ?_⟩
    · rw [hx, List.cons_append]
    · rw [List.map_cons, he, moves_cons_of_isMove hm]
    · rintro y (_ | ⟨_, hy⟩)
      · rfl
      · exact ha y hy
    · intro i hi
      cases i with
      | zero => simp [setBefore_zero]
      | succ i =>
        rw [setBefore_succ_of_move hm]
        exact hs i (Nat.le_of_succ_le_succ hi)
  | @refused step r ss cause' token hm =>
    cases hres
    refine ⟨[], step, ss, [], token, rfl, hm, rfl, rfl, by simp, ?_⟩
    intro i hi
    obtain rfl := Nat.le_zero.1 hi
    simp [setBefore_zero]

theorem only_moves (h : Emitted token r ss xs res) : ∀ x ∈ xs, ∃ dx dy, x.event = .move dx dy := by
  cases res with
  | ok report =>
    obtain ⟨k, -, -, he, -⟩ := h.finished rfl
    intro x hx
    exact eq_move_of_mem_moves (he ▸ List.mem_map_of_mem hx)
  | error cause =>
    obtain ⟨pre, step, post, ys, c, -, -, rfl, he, -, -⟩ := h.refused_at rfl
    intro x hx
    rcases List.mem_append.1 hx with hx | hx
    · exact eq_move_of_mem_moves (he ▸ List.mem_map_of_mem hx)
    · rw [List.mem_singleton.1 hx]
      exact ⟨step.dx, step.dy, rfl⟩

/-- Every emission from an empty report is accounted for. -/
theorem accounted (h : Emitted token {} ss xs res) : Accounted token ss xs res where
  finished := by
    intro report hres
    obtain ⟨k, hk, rfl, he, ha⟩ := h.finished hres
    rw [show (({} : Report).stepsRun + k) = k from Nat.zero_add k]
    exact ⟨hk, by simp, he, ha, Nat.zero_add _⟩
  refused := fun cause hres => h.refused_at hres
  only_moves := h.only_moves

end Emitted

/-! ## Emissions that are cancelled -/

section Cancelled

variable {token : Bool} {ss : List Step} {xs : List Exchange} {res : Except DeviceError Report}

/-- With the token set from the start, no step is run. -/
theorem Accounted.swallowed (h : Accounted true ss xs res) (hne : ss ≠ []) :
    res = .ok ⟨0, 0, true⟩ ∧ xs = [] := by
  have hset : SetBefore true ss xs 0 := setBefore_zero.2 rfl
  cases res with
  | error cause =>
    obtain ⟨pre, step, post, ys, c, -, -, -, -, -, hnot⟩ := h.refused cause rfl
    exact absurd hset (hnot 0 (Nat.zero_le _))
  | ok report =>
    obtain ⟨hk, hcancelled, he, -, hmoves⟩ := h.finished report rfl
    have hrun : report.stepsRun = 0 := by
      refine Nat.eq_zero_of_not_pos fun hpos => ?_
      exact hk.not_before 0 hpos hset
    rw [hrun] at hcancelled he hmoves
    have hflag : report.cancelled = true := hcancelled.2 (List.length_pos_iff.2 hne)
    have hreport : report = ⟨report.stepsRun, report.movesEmitted, report.cancelled⟩ := rfl
    rw [hreport, hrun, hmoves, hflag]
    exact ⟨rfl, List.map_eq_nil_iff.1 he⟩

/-- A report tells of a cancellation just when some step finds the token set. -/
theorem Accounted.cancelled_iff {report : Report} (h : Accounted token ss xs (.ok report)) :
    report.cancelled = true ↔ ∃ k < ss.length, SetBefore token ss xs k := by
  obtain ⟨hk, hcancelled, -⟩ := h.finished report rfl
  rw [hcancelled]
  constructor
  · intro hlt
    exact ⟨_, hlt, hk.set hlt⟩
  · rintro ⟨k, hlt, hset⟩
    refine Nat.lt_of_le_of_lt (Nat.le_of_not_lt fun hbefore => ?_) hlt
    exact hk.not_before k hbefore hset

end Cancelled

/-! ## Emissions that nobody interferes with -/

section Undisturbed

variable {token : Bool} {ss : List Step} {xs : List Exchange} {res : Except DeviceError Report}

/-- How many steps are run when nobody interferes: none where the token was set before, else all. -/
def span (token : Bool) (ss : List Step) : Nat := if token then 0 else ss.length

/-- The report of an emission that nobody interferes with. -/
def spanReport (token : Bool) (ss : List Step) : Report :=
  ⟨span token ss, (moves (ss.take (span token ss))).length, decide (span token ss < ss.length)⟩

theorem stopsAt_span (h : ∀ x ∈ xs, x.cancels = false) : StopsAt token ss xs (span token ss) := by
  have hset : ∀ i, SetBefore token ss xs i ↔ token = true := by
    intro i
    refine ⟨?_, Or.inl⟩
    rintro (htoken | ⟨x, hx, hc⟩)
    · exact htoken
    · rw [h x (List.mem_of_mem_take hx)] at hc
      cases hc
  cases token with
  | true => exact ⟨Nat.zero_le _, fun i hi => absurd hi (Nat.not_lt_zero i), fun _ => (hset 0).2 rfl⟩
  | false =>
    refine ⟨Nat.le_refl _, fun i _ hi => ?_, fun hlt => absurd hlt (Nat.lt_irrefl _)⟩
    cases (hset i).1 hi

/-- Where no move is refused and nobody asks for a cancellation meanwhile, the token in front of the
first step decides everything. -/
theorem Accounted.undisturbed (h : Accounted token ss xs res)
    (hx : ∀ x ∈ xs, x.answer = .ok () ∧ x.cancels = false) :
    xs.map (·.event) = moves (ss.take (span token ss)) ∧ res = .ok (spanReport token ss) := by
  cases hres : res with
  | error cause =>
    obtain ⟨pre, step, post, ys, c, -, -, rfl, -⟩ := h.refused cause hres
    have hok := (hx ⟨step.move, .error cause, c⟩ (by simp)).1
    cases hok
  | ok report =>
    obtain ⟨hk, hcancelled, he, -, hmoves⟩ := h.finished report hres
    have hspan : report.stepsRun = span token ss := hk.unique (stopsAt_span fun x hm => (hx x hm).2)
    rw [hspan] at hcancelled he hmoves
    refine ⟨he, ?_⟩
    have hflag : report.cancelled = decide (span token ss < ss.length) := by
      rw [Bool.eq_iff_iff, hcancelled, decide_eq_true_iff]
    rw [spanReport, ← hflag, ← hmoves, ← hspan]

end Undisturbed

/-- The moves of an emission that was not cancelled add up to the moves of all steps. -/
theorem Accounted.delivered_eq {token : Bool} {ss : List Step} {xs : List Exchange}
    {report : Report} (h : Accounted token ss xs (.ok report)) (hc : report.cancelled = false) :
    delivered xs = moves ss := by
  obtain ⟨hk, hiff, he, ha, -⟩ := h.finished report rfl
  have hlen : ¬ report.stepsRun < ss.length := by
    rw [← hiff, hc]
    exact Bool.false_ne_true
  rw [delivered_eq_map ha, he, List.take_of_length_le (Nat.le_of_not_lt hlen)]

/-- However an emission ends, the moves of its first steps were delivered, and no others. -/
theorem Accounted.exists_delivered_eq {token : Bool} {ss : List Step} {xs : List Exchange}
    {res : Except DeviceError Report} (h : Accounted token ss xs res) :
    ∃ k, delivered xs = moves (ss.take k) := by
  cases hres : res with
  | ok report =>
    obtain ⟨-, -, he, ha, -⟩ := h.finished report hres
    exact ⟨report.stepsRun, by rw [delivered_eq_map ha, he]⟩
  | error cause =>
    obtain ⟨pre, step, post, ys, c, rfl, -, rfl, he, ha, -⟩ := h.refused cause hres
    refine ⟨pre.length, ?_⟩
    rw [List.take_left, ← he, ← delivered_eq_map ha]
    simp [delivered, Except.isOk, Except.toBool]

/-- Every run of a trajectory, whatever the devices do, is accounted for; if it was neither refused
nor cancelled, its moves add up to the total move. On recording devices behind any link, the cursor
is shifted by what was delivered. -/
theorem run_accounted (t : Trajectory) :
    (∀ (δ : Type) [Devices δ] (s : Stage (Traced δ)),
      let o := run t s
      let xs := s.devices.since o.state.devices
      Accounted s.cancel.isSet t.steps.toList xs o.result ∧
        ∀ report, o.result = .ok report → report.cancelled = false →
          shift (delivered xs) = t.totalMove) ∧
    ∀ s : Stage (Traced (Flaky Recorder)),
      let o := run t s
      let es := delivered (s.devices.since o.state.devices)
      let before := s.devices.inner.inner.cursor
      let after := o.state.devices.inner.inner.cursor
      Fits before es →
        after.x.toInt = before.x.toInt + (shift es).1 ∧
          after.y.toInt = before.y.toInt + (shift es).2 := by
  constructor
  · intro δ _ s
    obtain ⟨xs, hp, he⟩ := emit_emitted t.steps {} s
    have hx : s.devices.since (run t s).state.devices = xs := hp.since_eq
    simp only [hx]
    refine ⟨he.accounted, fun report hres hc => ?_⟩
    have hacc : Accounted s.cancel.isSet t.steps.toList xs (.ok report) := by
      rw [← hres]
      exact he.accounted
    rw [t.totalMove_eq, hacc.delivered_eq hc]
  · intro s
    obtain ⟨xs, hp, he⟩ := emit_emitted t.steps {} s
    have hx : s.devices.since (run t s).state.devices = xs := hp.since_eq
    have hcur := Recorder.follows.flaky.traced.passed hp
    simp only [hx]
    intro hf
    have hm : ∀ e ∈ delivered xs, ∃ dx dy, e = .move dx dy := by
      intro e hmem
      obtain ⟨x, hxs, rfl⟩ := List.mem_map.1 hmem
      exact he.only_moves x (List.mem_filter.1 hxs).1
    rw [show (run t s).state.devices.inner.inner.cursor = _ from hcur]
    exact toInt_foldl_moveCursor hm hf

end Stage

end SyntheticInput
