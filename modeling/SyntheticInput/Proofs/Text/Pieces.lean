import SyntheticInput.Text.Split

/-!
# Texts that consist of pieces

Cutting a text at a separator undoes putting it together, as long as no piece holds the separator.

* `splitAt_eq_iff`: the pieces of a text are the only ones without separators that it consists of.
* `lineBreaks`: the characters that break a line.
* `unlines`: the text of some lines, each ended by a line feed.
* `lines_eq_append_iff`: it has these lines, and no other text has them.
* `lines_append`: the lines of a text behind another one.
* `mapM_eq_some_iff`: where reading a piece undoes writing it, reading many undoes writing many.
-/

namespace SyntheticInput.Text

section Pieces

variable {α : Type} {sep : α} {p cs : List α} {ps : List (List α)}

/-- With an empty piece at the end, every other piece is followed by a separator. -/
theorem intercalate_concat_nil (sep : α) (ps : List (List α)) :
    [sep].intercalate (ps ++ [[]]) = ps.flatMap (· ++ [sep]) := by
  induction ps with
  | nil => rfl
  | cons p ps ih =>
    rw [List.cons_append, List.intercalate_cons_of_ne_nil (by simp), ih, List.flatMap_cons]

theorem mem_intercalate {c : α} (h : c ∈ [sep].intercalate ps) : c = sep ∨ ∃ p ∈ ps, c ∈ p := by
  induction ps with
  | nil => cases h
  | cons p ps ih =>
    cases ps with
    | nil => exact .inr ⟨p, List.mem_cons_self, by rwa [List.intercalate_singleton] at h⟩
    | cons q ps =>
      rw [List.intercalate_cons_cons, List.mem_append, List.mem_append, List.mem_singleton] at h
      rcases h with (h | rfl) | h
      · exact .inr ⟨p, List.mem_cons_self, h⟩
      · exact .inl rfl
      · exact (ih h).imp_right fun ⟨r, hr, hc⟩ => ⟨r, List.mem_cons_of_mem p hr, hc⟩

variable [DecidableEq α]

theorem splitAt_of_not_mem (h : sep ∉ p) : splitAt sep p = [p] := by
  induction p with
  | nil => rfl
  | cons c p ih =>
    rw [splitAt, if_neg (List.ne_of_not_mem_cons h).symm, ih (List.not_mem_of_not_mem_cons h)]

/-- The first piece ends at the first separator. -/
theorem splitAt_append (h : sep ∉ p) (cs : List α) :
    splitAt sep (p ++ sep :: cs) = p :: splitAt sep cs := by
  induction p with
  | nil => rw [List.nil_append, splitAt, if_pos rfl]
  | cons c p ih =>
    rw [List.cons_append, splitAt, if_neg (List.ne_of_not_mem_cons h).symm,
      ih (List.not_mem_of_not_mem_cons h)]

theorem splitAt_intercalate (hne : ps ≠ []) (h : ∀ p ∈ ps, sep ∉ p) :
    splitAt sep ([sep].intercalate ps) = ps := by
  induction ps with
  | nil => exact absurd rfl hne
  | cons p ps ih =>
    have hp : sep ∉ p := h p List.mem_cons_self
    cases ps with
    | nil => rw [List.intercalate_singleton, splitAt_of_not_mem hp]
    | cons q ps =>
      rw [List.intercalate_cons_cons, List.append_assoc, List.singleton_append, splitAt_append hp,
        ih (List.cons_ne_nil q ps) fun r hr => h r (List.mem_cons_of_mem p hr)]

/-- A text has the pieces, none of which holds the separator, that it consists of. -/
theorem splitAt_eq_iff :
    splitAt sep cs = ps ↔ cs = [sep].intercalate ps ∧ ps ≠ [] ∧ ∀ p ∈ ps, sep ∉ p := by
  constructor
  · rintro rfl
    exact ⟨(intercalate_splitAt sep cs).symm, splitAt_ne_nil sep cs,
      fun p hp => not_mem_of_mem_splitAt hp⟩
  · rintro ⟨rfl, hne, h⟩
    exact splitAt_intercalate hne h

/-- Without a separator, what stands in front of a text belongs to its first piece. -/
theorem splitAt_append_of_not_mem (h : sep ∉ p) {q : List α} (hq : splitAt sep cs = q :: ps) :
    splitAt sep (p ++ cs) = (p ++ q) :: ps := by
  obtain ⟨rfl, -, hps⟩ := splitAt_eq_iff.1 hq
  rw [List.forall_mem_cons] at hps
  refine splitAt_eq_iff.2 ⟨?_, List.cons_ne_nil _ _, List.forall_mem_cons.2 ⟨?_, hps.2⟩⟩
  · cases ps with
    | nil => rw [List.intercalate_singleton, List.intercalate_singleton]
    | cons r ps => rw [List.intercalate_cons_cons, List.intercalate_cons_cons, List.append_assoc,
        List.append_assoc, List.append_assoc]
  · rw [List.mem_append, not_or]
    exact ⟨h, hps.1⟩

end Pieces

/-! ## Lines -/

/-- The characters that break a line: line feed, vertical tab, form feed, carriage return, next
line, line separator and paragraph separator. -/
def lineBreaks : List Char :=
  ['\n', '\x0b', '\x0c', '\r', '\x85', '\u2028', '\u2029']

/-- The text of some lines, each ended by a line feed. -/
def unlines (ls : List String) : String := String.join (ls.map (· ++ "\n"))

theorem toList_unlines (ls : List String) :
    (unlines ls).toList = (ls.map String.toList).flatMap (· ++ ['\n']) := by
  simp [unlines, String.toList_join, List.flatMap_map]

/-- Lines are those of a text, with nothing behind them, just when the text is made of them and no
line feed stands in any. -/
theorem lines_eq_append_iff {text : String} {ls : List String} :
    lines text = ls ++ [""] ↔ text = unlines ls ∧ ∀ l ∈ ls, '\n' ∉ l.toList := by
  have hmade : ls ++ [""] = (ls.map String.toList ++ [[]]).map String.ofList := by simp
  have htext : text.toList = ['\n'].intercalate (ls.map String.toList ++ [[]]) ↔
      text = unlines ls := by
    rw [intercalate_concat_nil, ← toList_unlines, String.toList_inj]
  have hends : (∀ p ∈ ls.map String.toList ++ [[]], '\n' ∉ p) ↔ ∀ l ∈ ls, '\n' ∉ l.toList := by
    rw [List.forall_mem_append, List.forall_mem_map]
    simp
  rw [lines, hmade, List.map_inj_right fun _ _ => String.ofList_inj.1, splitAt_eq_iff, htext, hends]
  simp

/-- Without a line feed, what stands in front of a text belongs to its first line. -/
theorem lines_append {s t : String} (h : '\n' ∉ s.toList) :
    ∃ l ls, lines t = l :: ls ∧ lines (s ++ t) = (s ++ l) :: ls := by
  obtain ⟨q, ps, hq⟩ := List.exists_cons_of_ne_nil (splitAt_ne_nil '\n' t.toList)
  refine ⟨String.ofList q, ps.map String.ofList, ?_, ?_⟩
  · rw [lines, hq, List.map_cons]
  · rw [lines, String.toList_append, splitAt_append_of_not_mem h hq, List.map_cons,
      String.ofList_append, String.ofList_toList]

/-! ## Reading piece by piece -/

/-- Where the values that are read are those with the property `P`, each from the one text that is
written for it, the same holds of lists of them. -/
theorem mapM_eq_some_iff {α β : Type} {read : α → Option β} {write : β → α} {P : β → Prop}
    (h : ∀ x y, read x = some y ↔ x = write y ∧ P y) {xs : List α} {ys : List β} :
    xs.mapM read = some ys ↔ xs = ys.map write ∧ ∀ y ∈ ys, P y := by
  induction xs generalizing ys with
  | nil => cases ys <;> simp
  | cons x xs ih =>
    have hcons : (x :: xs).mapM read = some ys ↔
        ∃ z, read x = some z ∧ ∃ zs, xs.mapM read = some zs ∧ z :: zs = ys := by
      simp [List.mapM_cons, Option.bind_eq_some_iff]
    rw [hcons]
    constructor
    · rintro ⟨z, hz, zs, hzs, rfl⟩
      obtain ⟨rfl, hpz⟩ := (h x z).1 hz
      obtain ⟨rfl, hpzs⟩ := ih.1 hzs
      exact ⟨rfl, List.forall_mem_cons.2 ⟨hpz, hpzs⟩⟩
    · rintro ⟨hxs, hp⟩
      cases ys with
      | nil => cases hxs
      | cons y ys =>
        obtain ⟨rfl, rfl⟩ := List.cons.inj hxs
        obtain ⟨hpy, hpys⟩ := List.forall_mem_cons.1 hp
        exact ⟨y, (h _ y).2 ⟨rfl, hpy⟩, ys, ih.2 ⟨rfl, hpys⟩, rfl⟩

end SyntheticInput.Text
