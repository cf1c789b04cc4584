import SyntheticInput.Proofs.CommandLine.Script
import SyntheticInput.Proofs.Event.Line

/-!
# Reading what a dry run prints

A dry run prints the log of its devices, each event on a line. What is printed can be cut into lines
again, and each line tells its event.

* `readLog?`: the events that a printed text tells.
* `readLog?_eq_some_iff`: these are the events whose lines the text consists of.
* `Answer.text`: what an answer puts on standard output.
* `dry_run_read_back`: what a dry run prints is read as the log of its devices.
-/

namespace SyntheticInput.CommandLine

/-- The events whose lines a text consists of, each ended by a line feed. -/
def readLog? (text : String) : Option (List Event) :=
  if (Text.lines text).getLast? = some "" then (Text.lines text).dropLast.mapM Event.ofLine?
  else none

theorem lines_printed (log : List Event) :
    Text.lines (Text.unlines (log.map Event.line)) = log.map Event.line ++ [""] := by
  refine Text.lines_eq_append_iff.2 ⟨rfl, List.forall_mem_map.2 fun e _ => ?_⟩
  exact e.unbroken '\n' (by decide)

/-- A log is read from the text that is printed for it, and from no other. -/
theorem readLog?_eq_some_iff {text : String} {log : List Event} :
    readLog? text = some log ↔ text = Text.unlines (log.map Event.line) := by
  have hread : ∀ ls : List String, ls.mapM Event.ofLine? = some log ↔ ls = log.map Event.line := by
    intro ls
    have h : ls.mapM Event.ofLine? = some log ↔ ls = log.map Event.line ∧ ∀ e ∈ log, True :=
      Text.mapM_eq_some_iff fun s e => by rw [Event.ofLine?_eq_some_iff, and_true]
    simpa using h
  rw [readLog?]
  constructor
  · intro h
    split at h
    · next hlast =>
      obtain ⟨ls, hls⟩ := List.getLast?_eq_some_iff.1 hlast
      rw [hls, List.dropLast_concat] at h
      obtain rfl := (hread ls).1 h
      exact (Text.lines_eq_append_iff.1 hls).1
    · cases h
  · rintro rfl
    rw [lines_printed, if_pos List.getLast?_concat, List.dropLast_concat]
    exact (hread _).2 rfl

/-- What an answer puts on standard output. -/
def Answer.text (a : Answer) : String := Text.unlines a.output

/-- **What a dry run prints tells what it did.** Events that differ have different lines, those of
different devices already in the kind in front, and nothing breaks a line. So a text is read as the
events whose lines it consists of, and what a dry run prints, whether it failed or not, is read as
the log of its devices. -/
theorem dry_run_read_back :
    (∀ e e' : Event, e.line = e'.line ↔ e = e') ∧
      (∀ k m, (Event.key k).fields.head? ≠ (Event.mouse m).fields.head?) ∧
      (∀ e : Event, ∀ c ∈ Text.lineBreaks, c ∉ e.line.toList) ∧
      (∀ text log, readLog? text = some log ↔ text = Text.unlines (log.map Event.line)) ∧
      ∀ (arguments : List String) (i : Invocation) (e : Environment) (c : Config)
        (level : Option Level), Request.ofArguments arguments = .ok (.invoke i) →
        i.dryRun = true → (i.configuration e.files ()).result = .ok c →
          readLog? (respond arguments e level).text =
            some (i.job.perform (i.remainingInput e)
              (Simulator.ofConfig c e.entropy ({} : Recorder))).state.devices.log := by
  refine ⟨fun e e' => ?_, Event.head?_fields_ne, Event.unbroken, fun _ _ => readLog?_eq_some_iff, ?_⟩
  · rw [← Event.ofLine?_eq_some_iff, Event.ofLine?_eq_some_iff.2 rfl, Option.some_inj]
  · intro arguments i e c level harguments hdry hc
    have hanswer : respond arguments e level = Request.respond e level (.invoke i) := by
      rw [respond, harguments]
    have hevents : (i.run e).events = (i.job.perform (i.remainingInput e)
        (Simulator.ofConfig c e.entropy ({} : Recorder))).state.devices.log :=
      congrArg Execution.events (run_of_dryRun hdry hc)
    rw [hanswer, ← hevents]
    exact readLog?_eq_some_iff.2 rfl

/-- Inputs of both devices, with coordinates at both ends of their range. -/
theorem dry_run_read_back_corner :
    let arguments := ["--dry-run", "run"]
    let i : Invocation := { job := .run, dryRun := true }
    let e : Environment :=
      { files := fun _ => .error .notFound
        input := "setpos -2147483648 2147483647\na up".toUTF8.toList }
    '\r' ∈ Text.lineBreaks ∧ '\r' ∉ (Event.keyUp 65).line.toList ∧
      Request.ofArguments arguments = .ok (.invoke i) ∧ i.dryRun = true ∧
      (i.configuration e.files ()).result = .ok {} ∧
      readLog? (respond arguments e none).text =
        some [.setPosition ⟨-2147483648, 2147483647⟩, .keyUp 65] := by
  intro arguments i e
  obtain ⟨-, -, hunbroken, -, hrun⟩ := dry_run_read_back
  have harguments : Request.ofArguments arguments = .ok (.invoke i) := rfl
  have hc : (i.configuration e.files ()).result = .ok {} := rfl
  have hlog : (i.job.perform (i.remainingInput e)
      (Simulator.ofConfig {} e.entropy ({} : Recorder))).state.devices.log =
        [.setPosition ⟨-2147483648, 2147483647⟩, .keyUp 65] := by
    decide +kernel
  refine ⟨by decide, hunbroken _ _ (by decide), harguments, rfl, hc, ?_⟩
  rw [hrun arguments i e {} none harguments rfl hc, hlog]

end SyntheticInput.CommandLine
