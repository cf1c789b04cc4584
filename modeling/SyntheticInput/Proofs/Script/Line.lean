import SyntheticInput.Config.Validation
import SyntheticInput.Device.Recorder
import SyntheticInput.Proofs.Command.Reading
import SyntheticInput.Proofs.Text.Words

/-!
# What a script line does

A line is read in two passes: once for the instruction and, if that is a key command, once more for
the command in its text. The second pass gets the trimmed line, which has the words of the line, so
the two agree on everything that depends on the words alone.

* `ofLine?_blank`, `ofLine?_comment`, `ofLine?_key`: what a line without a directive asks for.
* `Alike`, `ofLine?_alike`: lines with the same words ask for the same, up to the blanks in a key
  command.
* `runLine_eq`, `result_runLine`, `state_runLine`: a line does what it asks for.
* `Plain`, `MeansCommand`: the lines that are neither comments nor directives, and what they do.
* `line_means_command`: these lines do what their texts do as commands, and of all lines only the
  words matter.
-/

namespace SyntheticInput

namespace Instruction

variable {line name : String} {ws : List (List Char)}

/-! ## What a line asks for -/

theorem ofWord?_eq_none (h : Config.isDirective name = false) : Directive.ofWord? name = none := by
  cases hd : Directive.ofWord? name with
  | none => rfl
  | some d =>
    have hname : Text.foldAscii name = d.word := by simpa using List.find?_some hd
    have hsame : Config.isDirective name = true :=
      List.any_eq_true.2 ⟨d, List.mem_of_find?_eq_some hd, by
        rw [Text.sameName_iff, hname, d.foldAscii_word]⟩
    rw [h] at hsame
    cases hsame

/-- A blank line asks for nothing. -/
theorem ofLine?_blank (hw : Text.words line.toList = []) : ofLine? line = .ok none := by
  unfold ofLine?
  simp only [Text.words_trim, hw]

/-- A line whose first word starts with a number sign asks for nothing. -/
theorem ofLine?_comment (hw : Text.words line.toList = name.toList :: ws)
    (hc : name.toList.head? = some '#') : ofLine? line = .ok none := by
  unfold ofLine?
  simp only [Text.words_trim, hw]
  rw [if_pos hc]

/-- A line whose first word starts otherwise, and is no directive, is a key command. -/
theorem ofLine?_key (hw : Text.words line.toList = name.toList :: ws)
    (hc : name.toList.head? ≠ some '#') (hd : Config.isDirective name = false) :
    ofLine? line = .ok (some (.key (.ofList (Text.trim line.toList)))) := by
  unfold ofLine?
  simp only [Text.words_trim, hw]
  rw [if_neg hc, String.ofList_toList, ofWord?_eq_none hd]

/-- The text of a key command has the words of its line. -/
theorem words_trim_line (line : String) :
    Text.words (String.ofList (Text.trim line.toList)).toList = Text.words line.toList := by
  rw [String.toList_ofList, Text.words_trim]

/-- The two lines ask for the same, up to the blanks in the text of a key command. -/
inductive Alike :
    Except ScriptError (Option Instruction) → Except ScriptError (Option Instruction) → Prop
  | same (asked : Except ScriptError (Option Instruction)) : Alike asked asked
  | key {a b : String} : Text.words a.toList = Text.words b.toList →
      Alike (.ok (some (.key a))) (.ok (some (.key b)))

/-- Lines with the same words ask for the same. -/
theorem ofLine?_alike {a b : String} (h : Text.words a.toList = Text.words b.toList) :
    Alike (ofLine? a) (ofLine? b) := by
  have hkey : Text.words (String.ofList (Text.trim a.toList)).toList =
      Text.words (String.ofList (Text.trim b.toList)).toList := by
    rw [words_trim_line, words_trim_line, h]
  unfold ofLine?
  simp only [Text.words_trim, h]
  split
  · exact .same _
  · split
    · exact .same _
    · split
      · exact .same _
      · exact .key hkey

end Instruction

/-! ## What an instruction does -/

variable {δ : Type} [Devices δ]

/-- Only the words of a command matter. -/
theorem Simulator.send_congr {a b : String} (h : Text.words a.toList = Text.words b.toList) :
    (send a : Act (Simulator δ) CommandError Unit) = send b := by
  unfold send Command.read
  rw [h]

namespace Instruction

theorem state_execute (i : Instruction) (s : Simulator δ) :
    (i.execute s : Outcome _ ScriptError Unit).state =
      match i with
      | .move x y speed => (Simulator.moveTo ⟨x, y⟩ speed s).state
      | .setPosition x y => (Simulator.setPosition ⟨x, y⟩ s).state
      | .sleep _ => s
      | .key command => (Simulator.send command s).state := by
  unfold execute
  rw [Act.state_note_bind]
  cases i with
  | move x y speed =>
    exact congrArg (·.state) (Act.bind_pure_apply
      (Act.mapError ScriptError.device (Simulator.moveTo ⟨x, y⟩ speed)) (fun _ => ()) s)
  | setPosition x y => rfl
  | sleep pause => rfl
  | key command => rfl

/-- The report of a move is dropped. -/
theorem result_execute (i : Instruction) (s : Simulator δ) :
    (i.execute s : Outcome _ ScriptError Unit).result =
      match i with
      | .move x y speed =>
        ((Simulator.moveTo ⟨x, y⟩ speed s).result.mapError .device).map fun _ => ()
      | .setPosition x y => (Simulator.setPosition ⟨x, y⟩ s).result.mapError .device
      | .sleep _ => .ok ()
      | .key command => (Simulator.send command s).result.mapError .command := by
  unfold execute
  rw [Act.result_note_bind]
  cases i with
  | move x y speed =>
    exact congrArg (·.result) (Act.bind_pure_apply
      (Act.mapError ScriptError.device (Simulator.moveTo ⟨x, y⟩ speed)) (fun _ => ()) s)
  | setPosition x y => rfl
  | sleep pause => rfl
  | key command => rfl

/-- A key command does what its text does. -/
theorem execute_key (command : String) (s : Simulator δ) :
    ((key command).execute s).result = (Simulator.send command s).result.mapError .command ∧
      ((key command).execute s).state = (Simulator.send command s).state :=
  ⟨result_execute _ s, state_execute _ s⟩

end Instruction

/-! ## What a line does -/

/-- A line does what it asks for. If it asks for nothing or is invalid, it does nothing. -/
theorem runLine_eq (text : String) (s : Simulator δ) :
    (runLine text s : Outcome _ ScriptError Bool) =
      match Instruction.ofLine? text with
      | .ok (some i) =>
        ⟨(i.execute s).result.map fun _ => true, (i.execute s).state, (i.execute s).notes⟩
      | .ok none => ⟨.ok false, s, []⟩
      | .error e => ⟨.error e, s, []⟩ := by
  unfold runLine
  cases Instruction.ofLine? text with
  | error e => rfl
  | ok asked =>
    cases asked with
    | none => rfl
    | some i => exact Act.bind_pure_apply i.execute (fun _ => true) s

theorem state_runLine (text : String) (s : Simulator δ) :
    (runLine text s).state =
      match Instruction.ofLine? text with
      | .ok (some i) => (i.execute s).state
      | _ => s := by
  rw [runLine_eq]
  rcases Instruction.ofLine? text with e | _ | i <;> rfl

/-- An invalid line and an instruction that fails are the errors of a line. -/
theorem result_runLine (text : String) (s : Simulator δ) :
    (runLine text s).result =
      match Instruction.ofLine? text with
      | .ok (some i) => (i.execute s).result.map fun _ => true
      | .ok none => .ok false
      | .error e => .error e := by
  rw [runLine_eq]
  rcases Instruction.ofLine? text with e | _ | i <;> rfl

/-- Of a line, only the words matter. -/
theorem runLine_congr {a b : String} (h : Text.words a.toList = Text.words b.toList)
    (s : Simulator δ) :
    (runLine a s).result = (runLine b s).result ∧ (runLine a s).state = (runLine b s).state := by
  have hasked := Instruction.ofLine?_alike h
  rw [result_runLine, result_runLine, state_runLine, state_runLine]
  generalize Instruction.ofLine? a = x at hasked ⊢
  generalize Instruction.ofLine? b = y at hasked ⊢
  cases hasked with
  | same asked => exact ⟨rfl, rfl⟩
  | key hw =>
    simp only
    rw [(Instruction.execute_key _ s).1, (Instruction.execute_key _ s).1,
      (Instruction.execute_key _ s).2, (Instruction.execute_key _ s).2, Simulator.send_congr hw]
    exact ⟨rfl, rfl⟩

/-! ## Lines that are key commands -/

/-- The first word of the line, if there is one, does not start with a number sign and is not that
of a directive. -/
def Plain (line : String) : Prop :=
  ∀ w ∈ (Text.words line.toList).head?,
    w.head? ≠ some '#' ∧ Config.isDirective (.ofList w) = false

instance (line : String) : Decidable (Plain line) :=
  inferInstanceAs (Decidable (∀ w ∈ (Text.words line.toList).head?,
    w.head? ≠ some '#' ∧ Config.isDirective (.ofList w) = false))

/-- The line does to the simulator what its text does as a command. -/
structure MeansCommand (line : String) (s : Simulator δ) : Prop where
  /-- The line asks for nothing just when its text is blank. -/
  nothing_iff : Instruction.ofLine? line = .ok none ↔
    (Command.read line s : Outcome _ CommandError _).result = .ok none
  /-- Otherwise it is a key command whose text is not blank. -/
  command : Instruction.ofLine? line ≠ .ok none →
    ∃ text, Instruction.ofLine? line = .ok (some (.key text)) ∧
      (Command.read text s : Outcome _ CommandError _).result ≠ .ok none
  /-- It ends as the command ends, and tells besides whether it asked for anything. -/
  result : (runLine line s).result =
    ((Simulator.send line s).result.mapError .command).map
      fun _ => !(Text.words line.toList).isEmpty
  /-- It leaves the simulator that the command leaves. -/
  state : (runLine line s).state = (Simulator.send line s).state

theorem Plain.meansCommand {line : String} (h : Plain line) (s : Simulator δ) :
    MeansCommand line s := by
  cases hw : Text.words line.toList with
  | nil =>
    have hnone := Instruction.ofLine?_blank hw
    have hread := (Command.read_eq_none_iff (ε := CommandError) line s).2 hw
    have hsend : Simulator.send line s = ⟨.ok (), s, []⟩ := by
      unfold Simulator.send Command.read
      rw [hw]
      rfl
    constructor
    · exact ⟨fun _ => hread, fun _ => hnone⟩
    · exact fun hne => absurd hnone hne
    · rw [result_runLine, hnone, hsend, hw]
      rfl
    · rw [state_runLine, hnone, hsend]
  | cons w ws =>
    obtain ⟨hc, hd⟩ := h w (by rw [hw]; rfl)
    rw [← String.toList_ofList (l := w)] at hw hc
    have hkey := Instruction.ofLine?_key hw hc hd
    have hwords := Instruction.words_trim_line line
    have hexec := Instruction.execute_key (.ofList (Text.trim line.toList)) s
    rw [Simulator.send_congr hwords] at hexec
    have hnot : ∀ text : String, Text.words text.toList = Text.words line.toList →
        (Command.read text s : Outcome _ CommandError _).result ≠ .ok none := by
      intro text ht hread
      rw [Command.read_eq_none_iff, ht, hw] at hread
      cases hread
    constructor
    · rw [hkey]
      exact ⟨nofun, fun hread => absurd hread (hnot line rfl)⟩
    · exact fun _ => ⟨_, hkey, hnot _ hwords⟩
    · rw [result_runLine, hkey, hw]
      simp only [hexec.1]
      rfl
    · rw [state_runLine, hkey]
      exact hexec.2

/-- A line that is neither a comment nor a directive does what its text does as a command, and of
any line only the words matter. Devices of every type take part, those that keep a trace among them,
so the events that are sent are the same, too, whatever is refused. -/
theorem line_means_command :
    (∀ (δ : Type) [Devices δ] (s : Simulator δ) (line : String), Plain line →
      MeansCommand line s) ∧
    ∀ (δ : Type) [Devices δ] (s : Simulator δ) (a b : String),
      Text.words a.toList = Text.words b.toList →
        (runLine a s).result = (runLine b s).result ∧
          (runLine a s).state = (runLine b s).state := by
  refine ⟨?_, ?_⟩
  · intro δ _ s line h
    exact h.meansCommand s
  · intro δ _ s a b h
    exact runLine_congr h s

/-- A number sign inside the first word makes no comment of a line, and a wide blank is a blank. -/
theorem line_means_command_numberSign :
    let s : Simulator Recorder := .ofConfig {} 0 {}
    Plain "\u3000a#\tdown " ∧ MeansCommand "\u3000a#\tdown " s ∧
      Text.words "a#  down".toList = Text.words "\u3000a#\tdown ".toList ∧
      (runLine "a#  down" s).result = (runLine "\u3000a#\tdown " s).result ∧
      (runLine "a#  down" s).state = (runLine "\u3000a#\tdown " s).state := by
  intro s
  have hplain : Plain "\u3000a#\tdown " := by decide
  have hwords : Text.words "a#  down".toList = Text.words "\u3000a#\tdown ".toList := by decide
  exact ⟨hplain, line_means_command.1 Recorder s _ hplain, hwords,
    line_means_command.2 Recorder s _ _ hwords⟩

end SyntheticInput
