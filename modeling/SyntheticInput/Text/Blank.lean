/-!
# Blanks and words

A blank is a character with the Unicode property White_Space. A text is read as the list of its
words, the maximal runs of characters that are not blank.

* `words`: the words of a text, in order.
* `trim`: the text without the blanks at its two ends.
* `words_blank`, `ne_nil_of_mem_words`, `not_isBlank_of_mem_words`: blanks in front change
  nothing, no word is empty and no word holds a blank.
-/

namespace SyntheticInput.Text

/-- The character has the property White_Space. -/
def isBlank (c : Char) : Bool :=
  let n := c.toNat
  (0x09 ≤ n && n ≤ 0x0D) || n == 0x20 || n == 0x85 || n == 0xA0 || n == 0x1680 ||
    (0x2000 ≤ n && n ≤ 0x200A) || n == 0x2028 || n == 0x2029 || n == 0x202F || n == 0x205F ||
    n == 0x3000

/-- The maximal runs of characters that are not blank, in order. -/
def words : List Char → List (List Char)
  | [] => []
  | c :: cs =>
    if isBlank c then words cs
    else if isBlank (cs.headD ' ') then [c] :: words cs
    else match words cs with
      | [] => [[c]]
      | w :: ws => (c :: w) :: ws

/-- The text without its leading blanks. -/
def trimLeft (cs : List Char) : List Char := cs.dropWhile isBlank

/-- The text without its trailing blanks. -/
def trimRight (cs : List Char) : List Char := (trimLeft cs.reverse).reverse

/-- The text without the blanks at its ends. -/
def trim (cs : List Char) : List Char := trimRight (trimLeft cs)

@[simp] theorem words_nil : words [] = [] := rfl

/-- A blank in front of a text adds no word. -/
theorem words_blank {c : Char} (h : isBlank c = true) (cs : List Char) :
    words (c :: cs) = words cs := by
  simp [words, h]

theorem ne_nil_of_mem_words {w : List Char} : ∀ {cs : List Char}, w ∈ words cs → w ≠ []
  | [], h => by simp at h
  | c :: cs, h => by
    have ih := fun w' => @ne_nil_of_mem_words w' cs
    rw [words] at h
    split at h
    · exact ih w h
    · split at h
      · rcases List.mem_cons.1 h with rfl | h
        · simp
        · exact ih w h
      · split at h
        · simp_all
        · next v vs hv =>
          rcases List.mem_cons.1 h with rfl | h
          · simp
          · exact ih w (hv ▸ List.mem_cons_of_mem v h)

theorem not_isBlank_of_mem_words {w : List Char} {x : Char} :
    ∀ {cs : List Char}, w ∈ words cs → x ∈ w → isBlank x = false
  | [], h, _ => by simp at h
  | c :: cs, h, hx => by
    have ih := fun w' => @not_isBlank_of_mem_words w' x cs
    rw [words] at h
    split at h
    · exact ih w h hx
    · next hc =>
      split at h
      · rcases List.mem_cons.1 h with rfl | h
        · simp_all
        · exact ih w h hx
      · split at h
        · simp_all
        · next v vs hv =>
          rcases List.mem_cons.1 h with rfl | h
          · rcases List.mem_cons.1 hx with rfl | hx
            · simpa using hc
            · exact ih v (hv ▸ List.mem_cons_self) hx
          · exact ih w (hv ▸ List.mem_cons_of_mem v h) hx

end SyntheticInput.Text
