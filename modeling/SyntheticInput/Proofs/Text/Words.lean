import SyntheticInput.Text.Blank

/-!
# Words of a text that is put together

* `words_append_blank`: a text falls apart at a blank; the other equations follow from this one.
* `words_blanks`, `words_letters`: blanks alone are no word, letters alone are one.
* `words_blanks_append`, `words_append_blanks`: blanks at the ends change nothing.
* `words_trim`: trimming keeps the words. What it leaves is empty or starts with the first word
  (`trim_cases`).
* `LaidOut`: words among blanks; `LaidOut.words_eq` reads them back.
-/

namespace SyntheticInput.Text

variable {cs bs w : List Char}

theorem words_ne_nil {c : Char} (h : isBlank c = false) (cs : List Char) :
    words (c :: cs) ≠ [] := by
  rw [words, if_neg (by simp [h])]
  split
  · simp
  · split <;> simp

/-- A letter begins a word of its own in front of a blank, else the word behind it. -/
theorem words_letter_blank {c d : Char} (h : isBlank c = false) (hd : isBlank d = true)
    (cs : List Char) : words (c :: d :: cs) = [c] :: words (d :: cs) := by
  rw [words, if_neg (by simp [h]), List.headD_cons, if_pos hd]

theorem words_letter_letter {c d : Char} (h : isBlank c = false) (hd : isBlank d = false)
    {cs : List Char} {v : List Char} {vs : List (List Char)} (hv : words (d :: cs) = v :: vs) :
    words (c :: d :: cs) = (c :: v) :: vs := by
  rw [words, if_neg (by simp [h]), List.headD_cons, if_neg (by simp [hd]), hv]

theorem words_singleton {c : Char} (h : isBlank c = false) : words [c] = [[c]] := by
  rw [words, if_neg (by simp [h]), if_pos (by decide)]
  rfl

/-- A text falls apart at a blank. -/
theorem words_append_blank {c : Char} (hc : isBlank c = true) (xs ys : List Char) :
    words (xs ++ c :: ys) = words xs ++ words ys := by
  -- A letter of `xs` looks one character ahead, so the blank matters for the last one only.
  induction xs with
  | nil => rw [List.nil_append, words_blank hc, words_nil, List.nil_append]
  | cons x xs ih =>
    rw [List.cons_append]
    cases hx : isBlank x with
    | true => rw [words_blank hx, words_blank hx, ih]
    | false =>
      cases xs with
      | nil =>
        rw [List.nil_append, words_letter_blank hx hc, words_singleton hx, words_blank hc]
        rfl
      | cons y xs =>
        rw [List.cons_append] at ih ⊢
        cases hy : isBlank y with
        | true =>
          rw [words_letter_blank hx hy, words_letter_blank hx hy, ih]
          rfl
        | false =>
          obtain ⟨v, vs, hv⟩ := List.exists_cons_of_ne_nil (words_ne_nil hy xs)
          rw [hv, List.cons_append] at ih
          rw [words_letter_letter hx hy ih, words_letter_letter hx hy hv]
          rfl

/-- Blanks alone are no word. -/
theorem words_blanks (h : ∀ c ∈ bs, isBlank c = true) : words bs = [] := by
  induction bs with
  | nil => rfl
  | cons b bs ih =>
    rw [words_blank (h b List.mem_cons_self)]
    exact ih fun c hc => h c (List.mem_cons_of_mem b hc)

/-- Blanks in front change nothing. -/
theorem words_blanks_append (h : ∀ c ∈ bs, isBlank c = true) (cs : List Char) :
    words (bs ++ cs) = words cs := by
  induction bs with
  | nil => rfl
  | cons b bs ih =>
    rw [List.cons_append, words_blank (h b List.mem_cons_self)]
    exact ih fun c hc => h c (List.mem_cons_of_mem b hc)

/-- Blanks behind change nothing. -/
theorem words_append_blanks (h : ∀ c ∈ bs, isBlank c = true) (cs : List Char) :
    words (cs ++ bs) = words cs := by
  cases bs with
  | nil => rw [List.append_nil]
  | cons b bs =>
    rw [words_append_blank (h b List.mem_cons_self),
      words_blanks fun c hc => h c (List.mem_cons_of_mem b hc), List.append_nil]

theorem letters_of_any (h : w.any isBlank = false) : ∀ c ∈ w, isBlank c = false :=
  fun c hc => Bool.eq_false_iff.2 (List.any_eq_false.1 h c hc)

/-- Letters alone are one word. -/
theorem words_letters (hne : w ≠ []) (h : ∀ c ∈ w, isBlank c = false) : words w = [w] := by
  induction w with
  | nil => exact absurd rfl hne
  | cons c w ih =>
    have hc := h c List.mem_cons_self
    cases w with
    | nil => exact words_singleton hc
    | cons d w =>
      have hd := h d (List.mem_cons_of_mem c List.mem_cons_self)
      exact words_letter_letter hc hd
        (ih (List.cons_ne_nil d w) fun x hx => h x (List.mem_cons_of_mem c hx))

theorem words_trimLeft (cs : List Char) : words (trimLeft cs) = words cs := by
  have hsplit : cs.takeWhile isBlank ++ trimLeft cs = cs := List.takeWhile_append_dropWhile
  have hblank : ∀ c ∈ cs.takeWhile isBlank, isBlank c = true :=
    fun c hc => List.all_eq_true.1 List.all_takeWhile c hc
  rw [← words_blanks_append hblank (trimLeft cs), hsplit]

theorem words_trimRight (cs : List Char) : words (trimRight cs) = words cs := by
  have hsplit : trimRight cs ++ (cs.reverse.takeWhile isBlank).reverse = cs := by
    have h : cs.reverse.takeWhile isBlank ++ trimLeft cs.reverse = cs.reverse :=
      List.takeWhile_append_dropWhile
    rw [trimRight, ← List.reverse_append, h, List.reverse_reverse]
  have hblank : ∀ c ∈ (cs.reverse.takeWhile isBlank).reverse, isBlank c = true :=
    fun c hc => List.all_eq_true.1 List.all_takeWhile c (List.mem_reverse.1 hc)
  rw [← words_append_blanks hblank (trimRight cs), hsplit]

/-- Trimming keeps the words. -/
theorem words_trim (cs : List Char) : words (trim cs) = words cs := by
  rw [trim, words_trimRight, words_trimLeft]

/-- A text that starts with a letter has a first word that does. -/
theorem words_letter {c : Char} (h : isBlank c = false) (cs : List Char) :
    ∃ w ws, words (c :: cs) = (c :: w) :: ws := by
  rw [words, if_neg (by simp [h])]
  split
  · exact ⟨[], _, rfl⟩
  · split
    · exact ⟨[], [], rfl⟩
    · exact ⟨_, _, rfl⟩

/-- What trimming leaves is empty, or it starts with a letter and so does its first word. -/
theorem trim_cases (cs : List Char) :
    trim cs = [] ∧ words cs = [] ∨
      ∃ c rest w ws, trim cs = c :: rest ∧ words cs = (c :: w) :: ws := by
  rw [← words_trim cs]
  cases ht : trim cs with
  | nil => exact .inl ⟨rfl, rfl⟩
  | cons c rest =>
    have hsuffix : (trimLeft cs).reverse.dropWhile isBlank <:+ (trimLeft cs).reverse :=
      List.dropWhile_suffix isBlank
    rw [← List.reverse_prefix, List.reverse_reverse] at hsuffix
    change trim cs <+: trimLeft cs at hsuffix
    rw [ht] at hsuffix
    obtain ⟨post, hpost⟩ := hsuffix
    have hc : isBlank c = false := by
      have hhead := List.head?_dropWhile_not isBlank cs
      rw [show cs.dropWhile isBlank = c :: (rest ++ post) from hpost.symm] at hhead
      simpa using hhead
    obtain ⟨w, ws, hw⟩ := words_letter hc rest
    exact .inr ⟨c, rest, w, ws, rfl, hw⟩

/-- The text consists of the words, with at least one blank between two of them and any number at
the ends. -/
inductive LaidOut : List (List Char) → List Char → Prop
  | last {pre w post : List Char} (hpre : ∀ c ∈ pre, isBlank c = true)
      (hpost : ∀ c ∈ post, isBlank c = true) : LaidOut [w] (pre ++ w ++ post)
  | cons {pre w gap cs : List Char} {ws : List (List Char)} (hpre : ∀ c ∈ pre, isBlank c = true)
      (hgap : ∀ c ∈ gap, isBlank c = true) (hne : gap ≠ []) (h : LaidOut ws cs) :
      LaidOut (w :: ws) (pre ++ w ++ gap ++ cs)

/-- The words of a text are those that it consists of. -/
theorem LaidOut.words_eq {ws : List (List Char)} (h : LaidOut ws cs) (hne : ∀ w ∈ ws, w ≠ [])
    (hletters : ∀ w ∈ ws, ∀ c ∈ w, isBlank c = false) : words cs = ws := by
  induction h with
  | @last pre w post hpre hpost =>
    rw [words_append_blanks hpost, words_blanks_append hpre,
      words_letters (hne w List.mem_cons_self) (hletters w List.mem_cons_self)]
  | @cons pre w gap cs ws hpre hgap hgne h ih =>
    obtain ⟨b, bs, rfl⟩ := List.exists_cons_of_ne_nil hgne
    simp only [List.append_assoc, List.cons_append]
    rw [words_blanks_append hpre, words_append_blank (hgap b List.mem_cons_self),
      words_letters (hne w List.mem_cons_self) (hletters w List.mem_cons_self),
      words_blanks_append fun c hc => hgap c (List.mem_cons_of_mem b hc),
      ih (fun v hv => hne v (List.mem_cons_of_mem w hv))
        fun v hv => hletters v (List.mem_cons_of_mem w hv)]
    rfl

end SyntheticInput.Text
