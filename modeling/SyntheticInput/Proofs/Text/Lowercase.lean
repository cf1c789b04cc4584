import SyntheticInput.Text.AsciiCase
import SyntheticInput.Text.Lowercase

/-!
# Lowercase forms in ASCII

On ASCII texts the two ways to fold letters agree. Outside ASCII they part: folding leaves a
character as it is, and its lowercase form is outside ASCII too, but for one character, the Kelvin
sign, whose lowercase form is the letter `k`.

* `lower_of_ascii`: the lowercase form of an ASCII text is its folded form.
* `ascii_of_lower`: a text whose lowercase form is in ASCII is in ASCII itself, Kelvin signs apart.
* `ascii_foldAscii`: folding neither enters nor leaves ASCII.
-/

namespace SyntheticInput.Text

/-- The Kelvin sign, the one character outside ASCII with a lowercase form in ASCII. -/
def kelvinSign : Char := '\u212A'

/-- All characters are in ASCII. -/
def Ascii (cs : List Char) : Prop := ∀ c ∈ cs, c.toNat < 128

theorem Ascii.of_cons {c : Char} {cs : List Char} (h : Ascii (c :: cs)) :
    c.toNat < 128 ∧ Ascii cs :=
  ⟨h c List.mem_cons_self, fun d hd => h d (List.mem_cons_of_mem c hd)⟩

theorem ascii_append {cs ds : List Char} : Ascii (cs ++ ds) ↔ Ascii cs ∧ Ascii ds :=
  List.forall_mem_append

theorem toNat_ofNat_of_valid {n : Nat} (h : n.isValidChar) : (Char.ofNat n).toNat = n := by
  rw [Char.ofNat, dif_pos h]
  rfl

/-! ## One character -/

/-- The number of the folded form of a character. -/
theorem toNat_toLower (c : Char) :
    c.toLower.toNat = if 0x41 ≤ c.toNat ∧ c.toNat ≤ 0x5A then c.toNat + 32 else c.toNat := by
  unfold Char.toLower
  by_cases hu : c.val ≥ 'A'.val ∧ c.val ≤ 'Z'.val
  · have hn : 0x41 ≤ c.toNat ∧ c.toNat ≤ 0x5A := hu
    rw [dif_pos hu, if_pos hn]
    change (c.val + ('a'.val - 'A'.val)).toNat = c.val.toNat + 32
    have h90 : c.val.toNat ≤ 0x5A := hn.2
    have h32 : ('a'.val - 'A'.val).toNat = 32 := rfl
    rw [UInt32.toNat_add, h32, Nat.mod_eq_of_lt (by omega)]
  · have hn : ¬ (0x41 ≤ c.toNat ∧ c.toNat ≤ 0x5A) := hu
    rw [dif_neg hu, if_neg hn]

/-- Folding neither enters nor leaves ASCII. -/
theorem toLower_ascii {c : Char} : c.toLower.toNat < 128 ↔ c.toNat < 128 := by
  rw [toNat_toLower]
  split
  · omega
  · rfl

/-- Apart from that of the letters `A` to `Z`, the runs hold no ASCII characters. -/
theorem lowercaseRuns_eq : ∃ rest, lowercaseRuns = ⟨0x41, 0x5A, 1, 32⟩ :: rest ∧
    ∀ r ∈ rest, 128 ≤ r.first :=
  ⟨lowercaseRuns.tail, rfl, by decide +kernel⟩

theorem mapCase_of_ascii {c : Char} (h : c.toNat < 128) : mapCase lowercaseRuns c = c.toLower := by
  obtain ⟨rest, hruns, hfirst⟩ := lowercaseRuns_eq
  have hrest : rest.findSome? (·.image? c.toNat) = none := by
    rw [List.findSome?_eq_none_iff]
    intro r hr
    have h128 := hfirst r hr
    rw [CaseRun.image?, if_neg (by omega)]
  rw [mapCase, hruns, List.findSome?_cons, hrest]
  apply Char.toNat_inj.1
  rw [toNat_toLower]
  by_cases hu : 0x41 ≤ c.toNat ∧ c.toNat ≤ 0x5A
  · have himg : CaseRun.image? ⟨0x41, 0x5A, 1, 32⟩ c.toNat = some (c.toNat + 32) := by
      rw [CaseRun.image?, if_pos ⟨hu.1, hu.2, Nat.mod_one _⟩]
      rfl
    rw [himg, if_pos hu]
    exact toNat_ofNat_of_valid (.inl (by omega))
  · have himg : CaseRun.image? ⟨0x41, 0x5A, 1, 32⟩ c.toNat = none := by
      rw [CaseRun.image?, if_neg fun hc => hu ⟨hc.1, hc.2.1⟩]
    rw [himg, if_neg hu]

theorem lowerChar_of_ascii {c : Char} (h : c.toNat < 128) : lowerChar c = [c.toLower] := by
  have hne : c ≠ 'İ' := by
    rintro rfl
    exact absurd h (by decide)
  rw [lowerChar, if_neg hne, mapCase_of_ascii h]

/-- The runs with an image in ASCII are that of the letters `A` to `Z` and that of the Kelvin sign;
the images of the others are characters. -/
theorem lowercaseRuns_image : ∀ r ∈ lowercaseRuns,
    r.last < 128 ∨ r = ⟨kelvinSign.toNat, kelvinSign.toNat, 1, -8383⟩ ∨
      (128 ≤ r.first + r.shift ∧
        (r.last + r.shift < 0xD800 ∨ (0xDFFF < r.first + r.shift ∧ r.last + r.shift < 0x110000))) := by
  decide +kernel

/-- A character with a lowercase form in ASCII is in ASCII or the Kelvin sign. -/
theorem ascii_of_lowerChar {c : Char} (h : Ascii (lowerChar c)) :
    c.toNat < 128 ∨ c = kelvinSign := by
  unfold lowerChar at h
  split at h
  · exact absurd (h '\u0307' (by simp)) (by decide)
  · have hm := h _ (List.mem_singleton_self _)
    unfold mapCase at hm
    split at hm
    · next n hn =>
      obtain ⟨r, hr, hi⟩ := List.exists_of_findSome?_eq_some hn
      unfold CaseRun.image? at hi
      split at hi
      · next hc =>
        obtain ⟨hfirst, hlast, -⟩ := hc
        have hn : n = (c.toNat + r.shift).toNat := (Option.some.inj hi).symm
        rcases lowercaseRuns_image r hr with hlow | rfl | ⟨himg, hvalid⟩
        · exact .inl (Nat.lt_of_le_of_lt hlast hlow)
        · have hk : c.toNat = kelvinSign.toNat := Nat.le_antisymm hlast hfirst
          exact .inr (Char.toNat_inj.1 hk)
        · -- The image is a character, so its number is `n`, which is not in ASCII.
          have hv : n.isValidChar := by
            rcases hvalid with hv | ⟨hv, hv'⟩
            · exact .inl (by omega)
            · exact .inr ⟨by omega, by omega⟩
          rw [toNat_ofNat_of_valid hv] at hm
          omega
      · cases hi
    · exact .inl hm

/-! ## Texts -/

theorem lowerAfter_of_ascii {cs : List Char} (h : Ascii cs) (before : List Char) :
    lowerAfter before cs = cs.map Char.toLower := by
  induction cs generalizing before with
  | nil => rfl
  | cons c cs ih =>
    obtain ⟨hc, hcs⟩ := h.of_cons
    have hne : c ≠ 'Σ' := by
      rintro rfl
      exact absurd hc (by decide)
    rw [lowerAfter, if_neg hne, lowerChar_of_ascii hc, ih hcs, List.map_cons]
    rfl

/-- The lowercase form of an ASCII text is its folded form. -/
theorem lower_of_ascii {s : String} (h : Ascii s.toList) : lower s = foldAscii s := by
  rw [lower, lowerAfter_of_ascii h, foldAscii]

theorem ascii_of_lowerAfter {cs before : List Char} (h : Ascii (lowerAfter before cs)) :
    ∀ c ∈ cs, c.toNat < 128 ∨ c = kelvinSign := by
  induction cs generalizing before with
  | nil => exact fun c hc => absurd hc List.not_mem_nil
  | cons d cs ih =>
    rw [lowerAfter, ascii_append] at h
    obtain ⟨hd, hcs⟩ := h
    rintro c (_ | ⟨_, hc⟩)
    · split at hd
      · -- Neither form of a sigma is in ASCII.
        split at hd
        · exact absurd (hd 'ς' (by simp)) (by decide)
        · exact absurd (hd 'σ' (by simp)) (by decide)
      · exact ascii_of_lowerChar hd
    · exact ih hcs c hc

/-- A text whose lowercase form is in ASCII is in ASCII itself, Kelvin signs apart. -/
theorem ascii_of_lower {s : String} (h : Ascii (lower s).toList) (hk : kelvinSign ∉ s.toList) :
    Ascii s.toList := by
  rw [lower, String.toList_ofList] at h
  intro c hc
  rcases ascii_of_lowerAfter h c hc with hlt | rfl
  · exact hlt
  · exact absurd hc hk

/-- The folded form of a text is in ASCII just when the text is. -/
theorem ascii_foldAscii {s : String} : Ascii (foldAscii s).toList ↔ Ascii s.toList := by
  rw [foldAscii, String.toList_ofList, Ascii, List.forall_mem_map]
  exact forall₂_congr fun c _ => toLower_ascii

end SyntheticInput.Text
