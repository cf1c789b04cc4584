import SyntheticInput.CommandLine.Execution
import SyntheticInput.Proofs.CommandLine.Input
import SyntheticInput.Proofs.CommandLine.Record
import SyntheticInput.Proofs.Script.Issued
import SyntheticInput.Proofs.Simulator.Turn

/-!
# Dry runs of scripts

A dry run takes the lines of the input one after the other to one simulator on recording devices. A
line that fails changes nothing there, so the lines behind it are run as if it were not there.

* `Passage`, `passages`: each line with its number and the simulator in front of it.
* `runLines_eq`: running some lines is running each of them in its passage.
* `Passage.events_eq`: the step; what a line adds to the log.
* `log_passages`, `behind_passages`: the run; the log behind some lines, and which of them may be
  left out.
* `DryRun`: what a dry run of a script does, prints and answers.
* `dry_run_script`: this is what every invocation that asks for one does.
-/

namespace SyntheticInput.CommandLine

/-! ## All lines -/

section Lines

variable {δ : Type}

/-- A line with its number, and the simulator in front of it. -/
structure Passage (δ : Type) where
  number : Nat
  text : String
  before : Simulator δ

variable [Devices δ]

/-- The passages of some lines, the first with the number `n`. In front of each of them is the
simulator that the lines before it have left, whether they failed or not. -/
def passages (n : Nat) (ls : List String) (s : Simulator δ) : List (Passage δ) :=
  (ls.zipIdx n).map fun l => ⟨l.2, l.1, Turn.behind ((ls.take (l.2 - n)).map .line) s⟩

namespace Passage

/-- What became of the line. -/
def outcome (p : Passage δ) : Outcome (Simulator δ) ScriptError Bool := runLine p.text p.before

/-- The line failed. -/
def failed (p : Passage δ) : Bool := !p.outcome.result.isOk

/-- What is reported about the line: its own notes, and that it failed. -/
def notes (p : Passage δ) : List Note :=
  p.outcome.notes ++
    match p.outcome.result with
    | .ok _ => []
    | .error e => [.lineFailed p.number e.message]

/-- The events that the line added to the log. -/
def events (p : Passage Recorder) : List Event :=
  p.outcome.state.devices.log.drop p.before.devices.log.length

end Passage

theorem passages_cons (n : Nat) (l : String) (ls : List String) (s : Simulator δ) :
    passages n (l :: ls) s = ⟨n, l, s⟩ :: passages (n + 1) ls (runLine l s).state := by
  unfold passages
  rw [List.zipIdx_cons, List.map_cons, Nat.sub_self]
  refine congrArg (_ :: ·) (List.map_congr_left fun m hm => ?_)
  have hle := List.le_snd_of_mem_zipIdx hm
  rw [show m.2 - n = m.2 - (n + 1) + 1 by omega]
  rfl

/-- Running some lines is running each of them in its passage, and counting those that failed. -/
theorem runLines_eq {ε : Type} (n : Nat) (ls : List String) (s : Simulator δ) :
    (runLines n ls s : Outcome _ ε Nat) =
      ⟨.ok ((passages n ls s).countP Passage.failed), Turn.behind (ls.map .line) s,
        (passages n ls s).flatMap Passage.notes⟩ := by
  induction ls generalizing n s with
  | nil => rfl
  | cons l ls ih =>
    have ha : (Act.attempt (runLine l) s : Outcome _ ε (Except ScriptError Bool)) =
        ⟨.ok (runLine l s).result, (runLine l s).state, (runLine l s).notes⟩ := rfl
    rw [runLines, Act.bind_ok ha, passages_cons, List.countP_cons, List.flatMap_cons]
    cases hr : (runLine l s : Outcome _ ScriptError Bool).result with
    | ok asked =>
      have hp : Passage.failed ⟨n, l, s⟩ = false := by rw [Passage.failed, Passage.outcome, hr]; rfl
      have hn : Passage.notes ⟨n, l, s⟩ = (runLine l s).notes := by
        rw [Passage.notes, Passage.outcome, hr, List.append_nil]
      simp only [ih, hp, hn]
      rfl
    | error e =>
      have hp : Passage.failed ⟨n, l, s⟩ = true := by rw [Passage.failed, Passage.outcome, hr]; rfl
      have hn : Passage.notes ⟨n, l, s⟩ = (runLine l s).notes ++ [.lineFailed n e.message] := by
        rw [Passage.notes, Passage.outcome, hr]
      have hnote : (Act.note (.lineFailed n e.message) (runLine l s).state : Outcome _ ε Unit) =
          ⟨.ok (), (runLine l s).state, [.lineFailed n e.message]⟩ := rfl
      simp only [Act.bind_ok hnote, Act.bind_ok (ih (n + 1) (runLine l s).state), hp, hn,
        Act.pure_apply, List.append_nil, List.append_assoc]
      rfl

end Lines

section Recorded

variable {s : Simulator Recorder}

/-- **The step.** The events of a line are those of the exchanges that it made, and no call fails
behind it. -/
theorem Passage.events_eq {p : Passage Recorder} (h : p.before.devices.Quiet) :
    ∃ xs, Issued p.before p.outcome xs ∧ p.events = xs.map (·.event) ∧
      p.outcome.state.devices.log = p.before.devices.log ++ p.events ∧
      p.outcome.state.devices.Quiet := by
  obtain ⟨xs, hi⟩ := runLine_issued h p.text
  obtain ⟨hquiet, hlog, -⟩ := h.passed hi.passed
  have hevents : p.events = xs.map (·.event) := by
    rw [Passage.events, show p.outcome.state.devices.log = _ from hlog, List.drop_left]
  refine ⟨xs, hi, hevents, ?_, hquiet⟩
  rw [hevents]
  exact hlog

/-- No call fails in front of any line. -/
theorem quiet_passages (h : s.devices.Quiet) (n : Nat) (ls : List String) :
    ∀ p ∈ passages n ls s, p.before.devices.Quiet := by
  induction ls generalizing n s with
  | nil => exact fun p hp => absurd hp List.not_mem_nil
  | cons l ls ih =>
    rw [passages_cons]
    obtain ⟨-, -, -, -, hnext⟩ := Passage.events_eq (p := ⟨n, l, s⟩) h
    rintro p (_ | ⟨_, hp⟩)
    · exact h
    · exact ih hnext (n + 1) p hp

/-- **The run.** The log behind some lines holds the events of each of them, in order. -/
theorem log_passages (h : s.devices.Quiet) (n : Nat) (ls : List String) :
    (Turn.behind (ls.map .line) s).devices.log =
      s.devices.log ++ (passages n ls s).flatMap Passage.events := by
  induction ls generalizing n s with
  | nil => exact (List.append_nil _).symm
  | cons l ls ih =>
    obtain ⟨-, -, -, hlog, hnext⟩ := Passage.events_eq (p := ⟨n, l, s⟩) h
    rw [passages_cons, List.flatMap_cons, ← List.append_assoc, ← hlog]
    exact ih hnext (n + 1)

/-- The lines that failed might as well not be there. -/
theorem behind_passages (h : s.devices.Quiet) (n : Nat) (ls : List String) :
    Turn.behind (ls.map .line) s =
      Turn.behind (((passages n ls s).filter (!·.failed)).map fun p => .line p.text) s := by
  induction ls generalizing n s with
  | nil => rfl
  | cons l ls ih =>
    obtain ⟨xs, hi, -, -, hnext⟩ := Passage.events_eq (p := ⟨n, l, s⟩) h
    rw [passages_cons, List.filter_cons]
    cases hf : Passage.failed ⟨n, l, s⟩ with
    | false => exact ih hnext (n + 1)
    | true =>
      have hsame : (runLine l s : Outcome _ ScriptError Bool).state = s :=
        hi.unchanged (by simpa [Passage.failed] using hf)
      rw [hsame]
      refine Eq.trans ?_ (ih h (n + 1))
      exact congrArg (Turn.behind (ls.map .line)) hsame

end Recorded

/-! ## Whole invocations -/

/-- How a script ends: that the input could not be read to its end counts more than that lines
failed. -/
def verdict (complete : Bool) (failures : Nat) : Except Failure Unit :=
  if complete then if failures = 0 then .ok () else .error (.failedLines failures)
  else .error .unreadableInput

theorem isOk_verdict {complete : Bool} {failures : Nat} :
    (verdict complete failures).isOk = true ↔ complete = true ∧ failures = 0 := by
  unfold verdict
  cases complete with
  | false => exact ⟨nofun, fun h => nomatch h.1⟩
  | true =>
    by_cases hf : failures = 0
    · rw [if_pos rfl, if_pos hf]
      exact ⟨fun _ => ⟨rfl, hf⟩, fun _ => rfl⟩
    · rw [if_pos rfl, if_neg hf]
      exact ⟨nofun, fun h => absurd h.2 hf⟩

theorem runScript_eq {δ : Type} [Devices δ] (i : Input) (s : Simulator δ) :
    runScript i s =
      ⟨verdict i.complete ((passages 1 i.lines s).countP Passage.failed),
        Turn.behind (i.lines.map .line) s, (passages 1 i.lines s).flatMap Passage.notes⟩ := by
  rw [runScript, Act.bind_ok (runLines_eq 1 i.lines s), verdict]
  generalize (passages 1 i.lines s).countP Passage.failed = failures
  cases i.complete with
  | false => simp [Act.fail]
  | true => by_cases hf : failures = 0 <;> simp [hf, Act.fail]

/-- A dry run carries out its job on the simulator of the configuration. -/
theorem run_of_dryRun {inv : Invocation} {e : Environment} {c : Config}
    (hdry : inv.dryRun = true) (hc : (inv.configuration e.files ()).result = .ok c) :
    let o := inv.job.perform (inv.remainingInput e)
      (Simulator.ofConfig c e.entropy ({} : Recorder))
    inv.run e =
      ⟨o.result, o.state.devices.log,
        (inv.configuration e.files ()).notes ++ Simulator.setupNotes c ++ o.notes⟩ := by
  intro o
  have hconf : inv.configuration e.files () =
      ⟨.ok c, (), (inv.configuration e.files ()).notes⟩ := by
    rw [← hc]
  rw [Invocation.run, hconf]
  simp only [hdry]
  rfl

/-- A dry run of a script runs it on the simulator of the configuration. -/
theorem run_dry {inv : Invocation} {e : Environment} {c : Config} (hjob : inv.job = .run)
    (hdry : inv.dryRun = true) (hc : (inv.configuration e.files ()).result = .ok c) :
    let o := runScript (Input.ofBytes (inv.remainingInput e))
      (Simulator.ofConfig c e.entropy ({} : Recorder))
    inv.run e =
      ⟨o.result, o.state.devices.log,
        (inv.configuration e.files ()).notes ++ Simulator.setupNotes c ++ o.notes⟩ := by
  have hrun := run_of_dryRun hdry hc
  rwa [hjob] at hrun

/-- A line that failed is among what is reported about it. -/
theorem Passage.lineFailed_mem {δ : Type} [Devices δ] {p : Passage δ} {cause : ScriptError}
    (h : p.outcome.result = .error cause) : .lineFailed p.number cause.message ∈ p.notes := by
  rw [Passage.notes, h]
  exact List.mem_append_right _ (List.mem_singleton.2 rfl)

/-- What a dry run of a script does, prints and answers. The input has the lines `ls`, of which `i`
is read, and `ps` are the passages of the lines that are read, from the simulator `start` on. -/
structure DryRun (ls : List (List UInt8)) (i : Input) (ps : List (Passage Recorder))
    (start : Simulator Recorder) (level : Option Level) (x : Execution) (a : Answer) : Prop where
  /-- The lines in front of the first that is no UTF-8 are read. -/
  reads : Reads ls i
  /-- Each has one passage, with its number and on the simulator behind the lines before it. -/
  passages : ps = passages 1 i.lines start
  /-- What a line sent is what it added to the log, and a line that failed changed nothing. -/
  issued : ∀ p ∈ ps, ∃ xs, Issued p.before p.outcome xs ∧ p.events = xs.map (·.event)
  /-- The simulator behind all lines is the one behind those that did not fail. -/
  others : Turn.behind (i.lines.map .line) start =
    Turn.behind ((ps.filter (!·.failed)).map fun p => .line p.text) start
  /-- The events are the log of this simulator, that is, those of each line in order. -/
  events : x.events = (Turn.behind (i.lines.map .line) start).devices.log ∧
    x.events = ps.flatMap Passage.events
  /-- That the input could not be read to its end counts more than that lines failed. -/
  result : x.result = verdict i.complete (ps.countP Passage.failed)
  /-- All events are printed, whether the run failed or not. -/
  output : a.output = x.events.map Event.line
  /-- The code is zero just when every line is UTF-8 and none that was read failed. -/
  code : a.code =
    if (∀ l ∈ ls, (lineText? l).isSome = true) ∧ ∀ p ∈ ps, p.failed = false then 0 else 1
  /-- A line that failed is reported: first its number, then the cause, which is left as it is if
  there are no control characters in it. -/
  reported : ∀ l, level = some l → ∀ p ∈ ps, ∀ cause, p.outcome.result = .error cause →
    let record := Execution.record (.lineFailed p.number cause.message)
    let told := plain (Execution.indented cause.message)
    (∃ pre post, a.diagnostics = pre ++ record ++ post) ∧
      record = "ERROR line " ++ Text.decimal p.number ++ ": " ++ told ∧
      ((∀ c ∈ cause.message.toList, isControl c = false) → told = cause.message ++ "\n")

/-- Every invocation that asks for a dry run of a script, with a configuration that can be had, runs
the lines of its input. -/
theorem dry_run_script {arguments : List String} {inv : Invocation} {e : Environment} {c : Config}
    (harguments : Request.ofArguments arguments = .ok (.invoke inv)) (hjob : inv.job = .run)
    (hdry : inv.dryRun = true) (hc : (inv.configuration e.files ()).result = .ok c)
    (level : Option Level) :
    ∃ ls i ps, Cut (inv.remainingInput e) ls ∧
      DryRun ls i ps (.ofConfig c e.entropy {}) level (inv.run e) (respond arguments e level) := by
  have hquiet : (Simulator.ofConfig c e.entropy ({} : Recorder)).devices.Quiet := ⟨rfl, rfl, rfl⟩
  have hlog : (Simulator.ofConfig c e.entropy ({} : Recorder)).devices.log = [] := rfl
  have hreads := reads_ofLines (cutLines (inv.remainingInput e))
  have hrun := run_dry hjob hdry hc
  have hanswer : respond arguments e level = Request.respond e level (.invoke inv) := by
    rw [respond, harguments]
  rw [Input.ofBytes, runScript_eq] at hrun
  generalize Simulator.ofConfig c e.entropy ({} : Recorder) = start at hquiet hlog hrun ⊢
  generalize Input.ofLines (cutLines (inv.remainingInput e)) = i at hreads hrun
  refine ⟨cutLines (inv.remainingInput e), i, passages 1 i.lines start, cut_cutLines _, ?_⟩
  constructor
  case reads => exact hreads
  case passages => rfl
  case issued =>
    intro p hp
    obtain ⟨xs, hi, hevents, -, -⟩ := Passage.events_eq (quiet_passages hquiet 1 i.lines p hp)
    exact ⟨xs, hi, hevents⟩
  case others => exact behind_passages hquiet 1 i.lines
  case events =>
    have hbehind := log_passages hquiet 1 i.lines
    rw [hlog, List.nil_append] at hbehind
    rw [hrun]
    exact ⟨rfl, hbehind⟩
  case result => rw [hrun]
  case output =>
    rw [hanswer]
    rfl
  case code =>
    have hok : (inv.run e).result.isOk = true ↔
        (∀ l ∈ cutLines (inv.remainingInput e), (lineText? l).isSome = true) ∧
          ∀ p ∈ passages 1 i.lines start, p.failed = false := by
      rw [hrun, isOk_verdict, hreads.complete_iff, List.countP_eq_zero]
      simp only [Bool.not_eq_true]
    rw [hanswer]
    simp only [Request.respond, hok]
  case reported =>
    rintro l rfl p hp cause hcause
    rw [hanswer]
    refine ⟨record_of_mem ?_ (Nat.zero_le _),
      Execution.record_lineFailed p.number cause.message, Execution.plain_indented⟩
    rw [hrun]
    exact List.mem_append_right _ (List.mem_flatMap.2 ⟨p, hp, p.lineFailed_mem hcause⟩)

/-- A line that is no UTF-8 makes the code one, whatever became of the lines in front of it. -/
theorem dry_run_script_unreadable :
    let inv : Invocation := { job := .run, dryRun := true }
    let e : Environment :=
      { files := fun _ => .error .notFound, input := [97, 10, 98, 10, 255, 10] }
    let a := respond ["--dry-run", "run"] e none
    Request.ofArguments ["--dry-run", "run"] = .ok (.invoke inv) ∧ inv.job = .run ∧
      inv.dryRun = true ∧ (inv.configuration e.files ()).result = .ok {} ∧
      (∃ ls i ps, Cut (inv.remainingInput e) ls ∧
        DryRun ls i ps (.ofConfig {} e.entropy {}) none (inv.run e) a) ∧
      a.code = 1 := by
  intro inv e a
  have harguments : Request.ofArguments ["--dry-run", "run"] = .ok (.invoke inv) := rfl
  have hc : (inv.configuration e.files ()).result = .ok {} := rfl
  have h := dry_run_script harguments rfl rfl hc none
  refine ⟨harguments, rfl, rfl, hc, h, ?_⟩
  obtain ⟨ls, i, ps, hcut, hdry⟩ := h
  obtain rfl := cut_iff.1 hcut
  refine hdry.code.trans (if_neg fun hall => ?_)
  have hsome := hall.1 [255, 10] (by decide)
  rw [show lineText? [255, 10] = none by decide] at hsome
  cases hsome

end SyntheticInput.CommandLine
