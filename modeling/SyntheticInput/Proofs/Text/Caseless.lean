import SyntheticInput.Proofs.Text.Lowercase
import SyntheticInput.Proofs.Text.Words
import SyntheticInput.Text.Uppercase

/-!
# What ASCII case leaves alone

Folding replaces `A` to `Z` by `a` to `z`. Both letters of such a pair are alike in all that the
reading of texts asks of a character, so folding a text first changes nothing that is read from it.

* `congr_toLower`: a function that does not tell the letters of a pair apart takes no notice of
  folding.
* `words_map_toLower`, `map_words_of_sameName`: texts that differ in ASCII case have words that do,
  one by one.
* `lowerAfter_map_toLower`, `lower_of_sameName`: such texts have one lowercase form. A sigma among
  other letters does not tell whether they are capitals.
* `upperChar_toLower`: the letters of a pair have one uppercase form.
* `not_isBlank_of_sameName`: a word stays a word.
-/

namespace SyntheticInput.Text

/-! ## One character -/

/-- A function that does not tell `A` to `Z` from `a` to `z` takes no notice of folding. -/
theorem congr_toLower {β : Type} {f : Char → β}
    (h : ∀ n < 26, f (Char.ofNat (0x61 + n)) = f (Char.ofNat (0x41 + n))) (c : Char) :
    f c.toLower = f c := by
  by_cases hu : 0x41 ≤ c.toNat ∧ c.toNat ≤ 0x5A
  · have hc : c = Char.ofNat (0x41 + (c.toNat - 0x41)) := by
      rw [show 0x41 + (c.toNat - 0x41) = c.toNat by omega, Char.ofNat_toNat]
    have hl : c.toLower = Char.ofNat (0x61 + (c.toNat - 0x41)) := by
      apply Char.toNat_inj.1
      rw [toNat_toLower, if_pos hu, toNat_ofNat_of_valid (.inl (by omega))]
      omega
    rw [hl, h _ (by omega), ← hc]
  · have hl : c.toLower = c := Char.toNat_inj.1 (by rw [toNat_toLower, if_neg hu])
    rw [hl]

@[simp] theorem isBlank_toLower (c : Char) : isBlank c.toLower = isBlank c :=
  congr_toLower (by decide) c

@[simp] theorem isCased_toLower (c : Char) : isCased c.toLower = isCased c :=
  congr_toLower (by decide +kernel) c

@[simp] theorem isCaseIgnorable_toLower (c : Char) : isCaseIgnorable c.toLower = isCaseIgnorable c :=
  congr_toLower (by decide +kernel) c

@[simp] theorem lowerChar_toLower (c : Char) : lowerChar c.toLower = lowerChar c :=
  congr_toLower (by decide +kernel) c

@[simp] theorem upperChar_toLower (c : Char) : upperChar c.toLower = upperChar c :=
  congr_toLower (by decide +kernel) c

/-- No letter in ASCII is a sigma. -/
theorem toLower_eq_sigma_iff (c : Char) : c.toLower = 'Σ' ↔ c = 'Σ' :=
  iff_of_eq (congr_toLower (f := fun c => c = 'Σ') (by decide +kernel) c)

/-! ## Words -/

/-- The words of a folded text are the folded words. -/
theorem words_map_toLower (cs : List Char) :
    words (cs.map Char.toLower) = (words cs).map (·.map Char.toLower) := by
  -- By the recursion of `words`, which looks one character ahead.
  induction cs with
  | nil => rfl
  | cons c cs ih =>
    have hnext : isBlank ((cs.map Char.toLower).headD ' ') = isBlank (cs.headD ' ') := by
      cases cs with
      | nil => rfl
      | cons d cs => exact isBlank_toLower d
    rw [List.map_cons, words, words, isBlank_toLower, hnext, ih]
    split
    · rfl
    · split
      · rfl
      · cases words cs with
        | nil => rfl
        | cons w ws => rfl

theorem map_toLower_of_sameName {a b : String} (h : sameName a b = true) :
    a.toList.map Char.toLower = b.toList.map Char.toLower := by
  rw [sameName_iff, foldAscii, foldAscii] at h
  exact String.ofList_injective h

/-- Texts that differ in ASCII case have words that do, one by one. -/
theorem map_words_of_sameName {a b : String} (h : sameName a b = true) :
    (words a.toList).map (·.map Char.toLower) = (words b.toList).map (·.map Char.toLower) := by
  rw [← words_map_toLower, ← words_map_toLower, map_toLower_of_sameName h]

theorem sameName_ofList {v w : List Char} (h : v.map Char.toLower = w.map Char.toLower) :
    sameName (.ofList v) (.ofList w) = true := by
  rw [sameName_iff, foldAscii, foldAscii, String.toList_ofList, String.toList_ofList, h]

/-- A word stays a word in another case. -/
theorem not_isBlank_of_sameName {a b : String} (h : sameName a b = true)
    (ha : ∀ c ∈ a.toList, isBlank c = false) : ∀ c ∈ b.toList, isBlank c = false := by
  intro c hc
  have hmem : c.toLower ∈ a.toList.map Char.toLower := by
    rw [map_toLower_of_sameName h]
    exact List.mem_map_of_mem hc
  obtain ⟨d, hd, heq⟩ := List.mem_map.1 hmem
  rw [← isBlank_toLower, ← heq, isBlank_toLower]
  exact ha d hd

/-! ## Lowercase forms -/

theorem meetsLetter_map_toLower (cs : List Char) :
    meetsLetter (cs.map Char.toLower) = meetsLetter cs := by
  have hp : isCaseIgnorable ∘ Char.toLower = isCaseIgnorable := funext isCaseIgnorable_toLower
  rw [meetsLetter, meetsLetter, List.dropWhile_map, hp]
  cases cs.dropWhile isCaseIgnorable with
  | nil => rfl
  | cons c cs => exact isCased_toLower c

/-- Folding first does not change a lowercase form. What follows a sigma and what comes before it
is folded, too, and stays a letter or none. -/
theorem lowerAfter_map_toLower (before cs : List Char) :
    lowerAfter (before.map Char.toLower) (cs.map Char.toLower) = lowerAfter before cs := by
  induction cs generalizing before with
  | nil => rfl
  | cons c cs ih =>
    have hends : endsWord (before.map Char.toLower) (cs.map Char.toLower) = endsWord before cs := by
      rw [endsWord, endsWord, meetsLetter_map_toLower, meetsLetter_map_toLower]
    rw [List.map_cons, lowerAfter, lowerAfter, ← List.map_cons, ih, hends, lowerChar_toLower]
    simp only [toLower_eq_sigma_iff]

/-- Names that differ in ASCII case have one lowercase form. -/
theorem lower_of_sameName {a b : String} (h : sameName a b = true) : lower a = lower b := by
  rw [lower, lower, ← lowerAfter_map_toLower [] a.toList, ← lowerAfter_map_toLower [] b.toList,
    map_toLower_of_sameName h]

end SyntheticInput.Text
