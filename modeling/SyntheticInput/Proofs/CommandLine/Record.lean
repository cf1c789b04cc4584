import SyntheticInput.CommandLine.Execution
import SyntheticInput.Proofs.Decimal.Reader
import SyntheticInput.Proofs.Text.Pieces

/-!
# Records of the log

A record is cleared of what controls a terminal, and its lines after the first are indented. What
stands in front of the cause of a failed line is touched by neither, so the number of the line can be
read whatever the cause says.

* `indented_append`: what stands in front of the first line is not indented.
* `plain_indented`: a text without control characters is left as it is.
* `record_lineFailed`: the number of a failed line, then the cause.
* `record_of_mem`: a note that the level asks for is printed.
-/

namespace SyntheticInput.CommandLine

namespace Execution

/-- What stands in front of the first line is not indented. -/
theorem indented_append {s : String} (h : '\n' ∉ s.toList) (t : String) :
    indented (s ++ t) = s ++ indented t := by
  obtain ⟨l, ls, ht, hst⟩ := Text.lines_append (t := t) h
  unfold indented Failure.hanging
  rw [ht, hst]
  cases ls with
  | nil => simp [String.append_assoc]
  | cons m ls => simp [String.intercalate_cons_cons, String.append_assoc]

theorem isShown_of_not_isControl {c : Char} (h : isControl c = false) : isShown c = true := by
  rw [isShown, h]
  rfl

theorem lineFeed_not_mem {cs : List Char} (h : ∀ c ∈ cs, isControl c = false) : '\n' ∉ cs :=
  fun hmem => absurd (h _ hmem) (by decide)

/-- A text without control characters is left as it is in front of its line feed. -/
theorem plain_indented {s : String} (h : ∀ c ∈ s.toList, isControl c = false) :
    plain (indented s) = s ++ "\n" := by
  have happ := indented_append (lineFeed_not_mem h) ""
  rw [String.append_empty] at happ
  rw [happ, plain_append fun c hc => isShown_of_not_isControl (h c hc)]
  rfl

/-- What stands in front of the cause of a failed line. -/
def caption (number : Nat) : String := "ERROR line " ++ Text.decimal number ++ ": "

theorem isControl_of_mem_caption {number : Nat} {c : Char} (h : c ∈ (caption number).toList) :
    isControl c = false := by
  rw [caption, String.toList_append, String.toList_append, List.mem_append, List.mem_append] at h
  rcases h with (h | h) | h
  · have hall : "ERROR line ".toList.all (!isControl ·) = true := by decide
    simpa using List.all_eq_true.1 hall c h
  · have hdigits : ∀ d < 10, isControl (Text.digit d) = false := by decide
    obtain ⟨d, hd, rfl⟩ :=
      Decimal.isDecimalDigit_iff.1 ((Decimal.numeral_decimal number).digits c h)
    exact hdigits d hd
  · have hall : ": ".toList.all (!isControl ·) = true := by decide
    simpa using List.all_eq_true.1 hall c h

/-- The record of a failed line is its number and, indented and cleared, the cause. -/
theorem record_lineFailed (number : Nat) (message : String) :
    record (.lineFailed number message) = caption number ++ plain (indented message) := by
  have hstart : "ERROR line " = "ERROR" ++ " " ++ "line " := by decide
  have hline : (Note.lineFailed number message).line = caption number ++ message := by
    change "ERROR" ++ " " ++ ("line " ++ Text.decimal number ++ ": " ++ message) = _
    rw [caption, hstart]
    simp only [String.append_assoc]
  have hcontrol : ∀ c ∈ (caption number).toList, isControl c = false :=
    fun _ hc => isControl_of_mem_caption hc
  rw [record, hline, indented_append (lineFeed_not_mem hcontrol),
    plain_append fun c hc => isShown_of_not_isControl (hcontrol c hc)]

end Execution

/-- A note that the level asks for is printed. -/
theorem record_of_mem {n : Note} {x : Execution} {level : Level} (hn : n ∈ x.notes)
    (hl : n.level.rank ≤ level.rank) :
    ∃ pre post, x.diagnostics (some level) = pre ++ Execution.record n ++ post := by
  have hmem : n ∈ notesAt level x.notes := List.mem_filter.2 ⟨hn, decide_eq_true hl⟩
  obtain ⟨ns, ms, hsplit⟩ := List.append_of_mem hmem
  unfold Execution.diagnostics
  simp only [hsplit, List.map_append, List.map_cons, String.join_append, String.join_cons,
    String.append_assoc]
  exact ⟨_, _, rfl⟩

end SyntheticInput.CommandLine
