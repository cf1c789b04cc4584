import SyntheticInput.CommandLine.Input

/-!
# What is read of some input

The lines of some bytes are fixed by where the line feeds stand, and what is read of them by the
first that is no UTF-8.

* `Cut bytes ls`: the bytes consist of the lines `ls`.
* `cut_iff`: these are the lines of `cutLines`, and no others.
* `Reads ls i`: of the lines `ls`, `i` is read.
* `reads_ofLines`: this is what `Input.ofLines` reads.
* `Reads.complete_iff`: everything is read just when every line is UTF-8.
-/

namespace SyntheticInput.CommandLine

/-! ## Lines -/

/-- The bytes consist of some lines. A line ends behind its first line feed, and only the last line
may have none. -/
inductive Cut : List UInt8 → List (List UInt8) → Prop
  | nil : Cut [] []
  | last {l} : l ≠ [] → 10 ∉ l → Cut l [l]
  | line {l bs ls} : 10 ∉ l → Cut bs ls → Cut (l ++ 10 :: bs) ((l ++ [10]) :: ls)

theorem Cut.cons {b : UInt8} {bs l : List UInt8} {ls : List (List UInt8)} (hb : b ≠ 10)
    (h : Cut bs (l :: ls)) : Cut (b :: bs) ((b :: l) :: ls) := by
  cases h with
  | last _ hl => exact .last (List.cons_ne_nil b bs) (by simp [hb.symm, hl])
  | @line l bs _ hl h => exact .line (l := b :: l) (by simp [hb.symm, hl]) h

theorem cut_cutLines (bs : List UInt8) : Cut bs (cutLines bs) := by
  induction bs with
  | nil => exact .nil
  | cons b bs ih =>
    rw [cutLines]
    by_cases hb : b = 10
    · rw [if_pos hb, hb]
      exact .line (l := []) List.not_mem_nil ih
    · rw [if_neg hb]
      cases hls : cutLines bs with
      | nil =>
        rw [hls] at ih
        cases ih
        exact .last (List.cons_ne_nil b []) (by simpa using Ne.symm hb)
      | cons l ls =>
        rw [hls] at ih
        exact ih.cons hb

theorem cutLines_line {l : List UInt8} (h : 10 ∉ l) (bs : List UInt8) :
    cutLines (l ++ 10 :: bs) = (l ++ [10]) :: cutLines bs := by
  induction l with
  | nil => simp [cutLines]
  | cons b l ih =>
    rw [List.cons_append, cutLines, if_neg (List.ne_of_not_mem_cons h).symm,
      ih (List.not_mem_of_not_mem_cons h)]
    rfl

theorem cutLines_last {l : List UInt8} (hne : l ≠ []) (h : 10 ∉ l) : cutLines l = [l] := by
  induction l with
  | nil => exact absurd rfl hne
  | cons b l ih =>
    rw [cutLines, if_neg (List.ne_of_not_mem_cons h).symm]
    cases l with
    | nil => rfl
    | cons c l => rw [ih (List.cons_ne_nil c l) (List.not_mem_of_not_mem_cons h)]

/-- The bytes determine the lines. -/
theorem cut_iff {bs : List UInt8} {ls : List (List UInt8)} : Cut bs ls ↔ cutLines bs = ls := by
  constructor
  · intro h
    induction h with
    | nil => rfl
    | last hne hl => exact cutLines_last hne hl
    | line hl _ ih => rw [cutLines_line hl, ih]
  · rintro rfl
    exact cut_cutLines bs

/-! ## Texts -/

/-- What is read of some lines: the texts of those in front of the first that is no UTF-8. The
reading is complete where there is none. -/
def Reads (ls : List (List UInt8)) (i : Input) : Prop :=
  ∃ rest, ls.map lineText? = i.lines.map some ++ rest ∧
    rest.head? = if i.complete then none else some none

theorem reads_ofLines (ls : List (List UInt8)) : Reads ls (.ofLines ls) := by
  induction ls with
  | nil => exact ⟨[], rfl, rfl⟩
  | cons l ls ih =>
    rw [Input.ofLines]
    cases hl : lineText? l with
    | none => exact ⟨none :: ls.map lineText?, by rw [List.map_cons, hl]; rfl, rfl⟩
    | some text =>
      obtain ⟨rest, hmap, hrest⟩ := ih
      exact ⟨rest, by rw [List.map_cons, hl, hmap]; rfl, hrest⟩

/-- The reading is complete just when every line is UTF-8. -/
theorem Reads.complete_iff {ls : List (List UInt8)} {i : Input} (h : Reads ls i) :
    i.complete = true ↔ ∀ l ∈ ls, (lineText? l).isSome = true := by
  obtain ⟨rest, hmap, hrest⟩ := h
  constructor
  · intro hc l hl
    rw [if_pos hc, List.head?_eq_none_iff] at hrest
    rw [hrest, List.append_nil] at hmap
    have hmem : lineText? l ∈ i.lines.map some := hmap ▸ List.mem_map_of_mem hl
    obtain ⟨text, -, htext⟩ := List.mem_map.1 hmem
    rw [← htext]
    rfl
  · intro hall
    refine Decidable.byContradiction fun hc => ?_
    rw [if_neg hc] at hrest
    have hmem : none ∈ ls.map lineText? :=
      hmap ▸ List.mem_append_right _ (List.mem_of_mem_head? hrest)
    obtain ⟨l, hl, hnone⟩ := List.mem_map.1 hmem
    have hsome := hall l hl
    rw [hnone] at hsome
    cases hsome

end SyntheticInput.CommandLine
