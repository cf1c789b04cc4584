import SyntheticInput.Proofs.Simulator.Turn

/-!
# The seed decides the randomness of moves

Since a seeding, the moves that were planned have taken two numbers each from the stream of the seed,
and nothing else has taken any. So the place of a move among those planned fixes its two numbers,
whatever else happened.

* `Turn.plan?`: the trajectory that a turn plans.
* `Epoch`: a seed and the trajectories planned since it was given.
* `Moment`, `Moment.behind`: the epoch and the simulator behind some turns.
* `Moment.InStep`: the invariant; the stream is where the planned moves have left it.
* `inStep_after`: the step; a turn keeps the invariant.
* `inStep_behind`: the run; so do turns in any order.
* `seed_decides_moves`: the `n`-th move since a seeding is planned with the numbers `2n` and `2n + 1`.
-/

namespace SyntheticInput

/-- The time since a seeding: the seed, and the trajectories that were planned since, in order. -/
structure Epoch where
  seed : UInt64
  plans : List Trajectory := []

/-- The `n`-th trajectory was planned with the numbers `2n` and `2n + 1` of the seed. -/
def Epoch.Drawn (e : Epoch) : Prop :=
  ∀ n t, e.plans[n]? = some t → ∃ speed : Float, t =
    Trajectory.ofDraws (Random.seededDraw e.seed (2 * n)) (Random.seededDraw e.seed (2 * n + 1))
      t.start t.target speed

/-- One more trajectory, planned with the two numbers behind those of the others. -/
theorem Epoch.Drawn.concat {e : Epoch} (h : e.Drawn) (start target : Point) (speed : Float) :
    Epoch.Drawn { e with
      plans := e.plans ++ [.ofDraws (Random.seededDraw e.seed (2 * e.plans.length))
        (Random.seededDraw e.seed (2 * e.plans.length + 1)) start target speed] } := by
  intro n t ht
  change (e.plans ++ [_])[n]? = some t at ht
  rcases Nat.lt_trichotomy n e.plans.length with hlt | rfl | hgt
  · rw [List.getElem?_append_left hlt] at ht
    exact h n t ht
  · rw [List.getElem?_concat_length] at ht
    obtain rfl := Option.some.inj ht
    exact ⟨speed, rfl⟩
  · rw [List.getElem?_eq_none (by rw [List.length_append, List.length_singleton]; exact hgt)] at ht
    cases ht

variable {δ : Type} [Devices δ]

/-- The trajectory that a turn plans, if it asks for a move and the query for the cursor is
answered. -/
def Turn.plan? (u : Turn δ) (s : Simulator δ) : Option Trajectory :=
  match u.move?, s.query.result with
  | some (target, speed), .ok start => some (s.trajectory start target speed)
  | _, _ => none

/-- The epoch behind a turn: a new one behind a seeding, else the same with what was planned. -/
def Epoch.after (e : Epoch) (u : Turn δ) (s : Simulator δ) : Epoch :=
  match u with
  | .withSeed seed => { seed }
  | _ => { e with plans := e.plans ++ (u.plan? s).toList }

/-- A simulator between two turns, and the epoch that it is in. -/
structure Moment (δ : Type) where
  epoch : Epoch
  simulator : Simulator δ

namespace Moment

/-- Right behind a seeding. -/
def start {δ : Type} (seed : UInt64) (s : Simulator δ) : Moment δ := ⟨{ seed }, s.withSeed seed⟩

/-- Behind one more turn. -/
def after (m : Moment δ) (u : Turn δ) : Moment δ :=
  ⟨m.epoch.after u m.simulator, u.apply m.simulator⟩

/-- Behind some more turns. -/
def behind (us : List (Turn δ)) (m : Moment δ) : Moment δ := us.foldl after m

/-- The stream of the simulator is that of the seed, without the two numbers of each trajectory
planned so far, and these are the numbers that it was planned with. -/
structure InStep {δ : Type} (m : Moment δ) : Prop where
  draws : m.simulator.draws = ⟨.seeded m.epoch.seed, 2 * m.epoch.plans.length⟩
  drawn : m.epoch.Drawn

variable {m : Moment δ} {u : Turn δ}

/-! ## One turn -/

theorem plan?_of_answered {s : Simulator δ} {target start : Point} {speed : Option Float}
    (hm : u.move? = some (target, speed)) (hq : s.query.result = .ok start) :
    u.plan? s = some (s.trajectory start target speed) := by
  rw [Turn.plan?, hm, hq]

theorem plan?_of_refused {s : Simulator δ} {cause : DeviceError}
    (hq : s.query.result = .error cause) : u.plan? s = none := by
  unfold Turn.plan?
  split
  · next start _ h =>
    rw [hq] at h
    cases h
  · rfl

theorem plan?_of_no_move (hm : u.move? = none) (s : Simulator δ) : u.plan? s = none := by
  rw [Turn.plan?, hm]

/-- Only a move whose query is answered plans a trajectory. -/
theorem plan?_eq_some {s : Simulator δ} {t : Trajectory} (h : u.plan? s = some t) :
    ∃ target speed start, u.move? = some (target, speed) ∧ s.query.result = .ok start ∧
      t = s.trajectory start target speed := by
  unfold Turn.plan? at h
  split at h
  · next target speed start hm hq => exact ⟨target, speed, start, hm, hq, (Option.some.inj h).symm⟩
  · cases h

/-- No seeding, no new epoch. -/
theorem epoch_after (m : Moment δ) (hs : ∀ seed, u ≠ .withSeed seed) :
    (m.after u).epoch = { m.epoch with plans := m.epoch.plans ++ (u.plan? m.simulator).toList } := by
  cases u with
  | withSeed seed => exact absurd rfl (hs seed)
  | send | line | move | setPosition | cancel | disturb => rfl

omit [Devices δ] in
theorem ne_withSeed_of_move? {target : Point} {speed : Option Float}
    (hm : u.move? = some (target, speed)) : ∀ seed, u ≠ .withSeed seed := by
  rintro seed rfl
  cases hm

/-- A turn that plans nothing leaves the epoch and the stream as they are. -/
theorem same_of_plan?_eq_none (hs : ∀ seed, u ≠ .withSeed seed)
    (hp : u.plan? m.simulator = none) :
    (m.after u).epoch = m.epoch ∧ (m.after u).simulator.draws = m.simulator.draws := by
  refine ⟨?_, ?_⟩
  · rw [epoch_after m hs, hp, Option.toList_none, List.append_nil]
  · cases hm : u.move? with
    | none => exact Turn.draws_apply hm hs m.simulator
    | some asked =>
      obtain ⟨target, speed⟩ := asked
      cases hq : m.simulator.query.result with
      | ok start =>
        rw [plan?_of_answered hm hq] at hp
        cases hp
      | error cause =>
        change (u.apply m.simulator).draws = _
        rw [Turn.apply_of_move? hm, (Simulator.moveTo_of_refused target speed hq).2]

/-- A move whose query is answered takes two numbers from the stream. -/
theorem draws_of_answered {target start : Point} {speed : Option Float}
    (hm : u.move? = some (target, speed)) (hq : m.simulator.query.result = .ok start) :
    (m.after u).simulator.draws = m.simulator.draws.drop 2 ∧
      (m.after u).simulator.devices =
        (Stage.run (m.simulator.trajectory start target speed) m.simulator.stage).state.devices := by
  change (u.apply m.simulator).draws = _ ∧ (u.apply m.simulator).devices = _
  rw [Turn.apply_of_move? hm, (Simulator.moveTo_of_answered target speed hq).2]
  exact ⟨rfl, rfl⟩

omit [Devices δ] in
/-- The two numbers that are next are those behind the numbers of the trajectories so far. -/
theorem InStep.trajectory_eq (h : m.InStep) (start target : Point) (speed : Option Float) :
    m.simulator.trajectory start target speed =
      .ofDraws (Random.seededDraw m.epoch.seed (2 * m.epoch.plans.length))
        (Random.seededDraw m.epoch.seed (2 * m.epoch.plans.length + 1)) start target
        (speed.getD m.simulator.defaultSpeed) := by
  rw [Simulator.trajectory, h.draws]
  rfl

/-- **The step.** A turn keeps the stream in step with the planned moves. -/
theorem inStep_after (h : m.InStep) (u : Turn δ) : (m.after u).InStep := by
  by_cases hseed : ∃ seed, u = .withSeed seed
  · obtain ⟨seed, rfl⟩ := hseed
    have hnone : Epoch.Drawn { seed } := fun n t ht => by cases ht
    exact ⟨rfl, hnone⟩
  · have hs : ∀ seed, u ≠ .withSeed seed := fun seed hu => hseed ⟨seed, hu⟩
    cases hp : u.plan? m.simulator with
    | none =>
      obtain ⟨he, hd⟩ := same_of_plan?_eq_none hs hp
      constructor
      · rw [hd, he]
        exact h.draws
      · rw [he]
        exact h.drawn
    | some t =>
      obtain ⟨target, speed, start, hm, hq, rfl⟩ := plan?_eq_some hp
      have he := epoch_after m hs
      rw [hp, Option.toList_some, h.trajectory_eq] at he
      constructor
      · rw [(draws_of_answered hm hq).1, h.draws, he, Draws.drop, List.length_append,
          List.length_singleton, Nat.mul_succ]
      · rw [he]
        exact h.drawn.concat start target _

/-- **The run.** So do turns in any order. -/
theorem inStep_behind (h : m.InStep) (us : List (Turn δ)) : (behind us m).InStep := by
  induction us generalizing m with
  | nil => exact h
  | cons u us ih => exact ih (inStep_after h u)

/-- The simulator of a moment is the one that the turns leave behind. -/
theorem simulator_behind (us : List (Turn δ)) (m : Moment δ) :
    (behind us m).simulator = Turn.behind us m.simulator := by
  induction us generalizing m with
  | nil => rfl
  | cons u us ih => exact ih (m.after u)

omit [Devices δ] in
theorem inStep_start (seed : UInt64) (s : Simulator δ) : (start seed s).InStep :=
  ⟨rfl, fun n t ht => by cases ht⟩

/-! ## Whole sessions -/

/-- How the randomness stands at a moment, and what the next turn does to it. -/
structure Decided (m : Moment δ) (u : Turn δ) : Prop where
  /-- The `n`-th trajectory has the arch and the jitter of the numbers `2n` and `2n + 1`. -/
  drawn : ∀ n t, m.epoch.plans[n]? = some t →
    t.curveStrength = strengthOf (Random.seededDraw m.epoch.seed (2 * n)) ∧
      t.jitterSeed = Random.seededDraw m.epoch.seed (2 * n + 1)
  /-- A move whose query is answered adds a trajectory, from the cursor to the target, and runs it. -/
  planned : ∀ target speed start, u.move? = some (target, speed) →
    m.simulator.query.result = .ok start →
      ∃ t, (m.after u).epoch = { m.epoch with plans := m.epoch.plans ++ [t] } ∧
        t.start = start ∧ t.target = target ∧
        t.speed = Trajectory.normalizeSpeed (speed.getD m.simulator.defaultSpeed) ∧
        (m.after u).simulator.devices = (Stage.run t m.simulator.stage).state.devices
  /-- A move whose query is refused takes nothing from the stream. -/
  refused : ∀ target speed cause, u.move? = some (target, speed) →
    m.simulator.query.result = .error cause →
      (m.after u).epoch = m.epoch ∧ (m.after u).simulator.draws = m.simulator.draws
  /-- Nor does a turn that asks for something else. -/
  other : u.move? = none → (∀ seed, u ≠ .withSeed seed) →
    (m.after u).epoch = m.epoch ∧ (m.after u).simulator.draws = m.simulator.draws
  /-- A seeding starts anew. -/
  seeded : ∀ seed, u = .withSeed seed → (m.after u).epoch = { seed }

theorem InStep.decided (h : m.InStep) (u : Turn δ) : m.Decided u where
  drawn := by
    intro n t ht
    obtain ⟨speed, heq⟩ := h.drawn n t ht
    rw [heq]
    exact ⟨rfl, rfl⟩
  planned := by
    intro target speed start hm hq
    have he := epoch_after m (ne_withSeed_of_move? hm)
    rw [plan?_of_answered hm hq] at he
    exact ⟨_, he, rfl, rfl, rfl, (draws_of_answered hm hq).2⟩
  refused := fun target speed cause hm hq =>
    same_of_plan?_eq_none (ne_withSeed_of_move? hm) (plan?_of_refused hq)
  other := fun hm hs => same_of_plan?_eq_none hs (plan?_of_no_move hm m.simulator)
  seeded := by
    rintro seed rfl
    rfl

end Moment

/-- Two trajectories with the same numbers, ends and speed are the same. -/
theorem eq_of_ofDraws {a b : UInt64} {v v' : Float} {t t' : Trajectory}
    (ht : t = .ofDraws a b t.start t.target v) (ht' : t' = .ofDraws a b t'.start t'.target v')
    (hstart : t.start = t'.start) (htarget : t.target = t'.target) (hspeed : t.speed = t'.speed) :
    t = t' := by
  have hv : Trajectory.normalizeSpeed v = Trajectory.normalizeSpeed v' :=
    calc Trajectory.normalizeSpeed v
      _ = t.speed := (congrArg Trajectory.speed ht).symm
      _ = t'.speed := hspeed
      _ = Trajectory.normalizeSpeed v' := congrArg Trajectory.speed ht'
  calc t
    _ = .ofDraws a b t.start t.target v := ht
    _ = .ofDraws a b t'.start t'.target v' := by
      simp only [Trajectory.ofDraws, hv, hstart, htarget]
    _ = t' := ht'.symm

/-- Behind a seeding, whatever the devices do and whatever else is asked for, the `n`-th move planned
is planned with the numbers `2n` and `2n + 1` of the seed. So in two sessions the `n`-th moves behind
the same seed are step for step the same, if they lead from the same start to the same target at the
same speed. Sessions over recording devices are among these. -/
theorem seed_decides_moves :
    (∀ (δ : Type) [Devices δ] (seed : UInt64) (s : Simulator δ) (us : List (Turn δ)) (u : Turn δ),
      (Moment.behind us (.start seed s)).Decided u) ∧
    (∀ (δ δ' : Type) [Devices δ] [Devices δ'] (seed seed' : UInt64) (s : Simulator δ)
      (s' : Simulator δ') (us : List (Turn δ)) (us' : List (Turn δ')) (n : Nat) (t t' : Trajectory),
      let e := (Moment.behind us (.start seed s)).epoch
      let e' := (Moment.behind us' (.start seed' s')).epoch
      e.seed = e'.seed → e.plans[n]? = some t → e'.plans[n]? = some t' →
        t.start = t'.start → t.target = t'.target → t.speed = t'.speed →
          t = t' ∧ t.steps.toList = t'.steps.toList) ∧
    ∀ (c : Config) (entropy : UInt64) (cursor : Point) (rs : List Session.Request),
      let s := Session.start c entropy cursor
      (Session.run rs s).2.1 = (Moment.behind (rs.map Session.Request.turn)
        (.start (c.settings.seed.getD entropy) s)).simulator := by
  refine ⟨?_, ?_, ?_⟩
  · intro δ _ seed s us u
    exact (Moment.inStep_behind (Moment.inStep_start seed s) us).decided u
  · intro δ δ' _ _ seed seed' s s' us us' n t t' e e' hseed ht ht' hstart htarget hspeed
    have h := (Moment.inStep_behind (Moment.inStep_start seed s) us).drawn
    have h' := (Moment.inStep_behind (Moment.inStep_start seed' s') us').drawn
    obtain ⟨v, hv⟩ := h n t ht
    obtain ⟨v', hv'⟩ := h' n t' ht'
    rw [show (Moment.behind us (.start seed s)).epoch.seed = _ from hseed] at hv
    have heq : t = t' := eq_of_ofDraws hv hv' hstart htarget hspeed
    exact ⟨heq, by rw [heq]⟩
  · intro c entropy cursor rs s
    rw [Session.state_run, Moment.simulator_behind]
    rfl

/-- A move that is cancelled before it starts is planned like one that is not. -/
theorem seed_decides_moves_cancelled :
    let s := Session.start {} 0 ⟨0, 0⟩
    let move : Turn Rig := .move ⟨30, 40⟩ none
    let e := (Moment.behind [.cancel, move] (.start 7 s)).epoch
    let e' := (Moment.behind [move] (.start 7 s)).epoch
    ∃ t t', e.plans[0]? = some t ∧ e'.plans[0]? = some t' ∧ t = t' ∧
      t.steps.toList = t'.steps.toList := by
  intro s move e e'
  have h : e.plans[0]? = some _ := rfl
  have h' : e'.plans[0]? = some _ := rfl
  exact ⟨_, _, h, h', seed_decides_moves.2.1 Rig Rig 7 7 s s [.cancel, move] [move] 0 _ _ rfl h h'
    rfl rfl rfl⟩

end SyntheticInput
