/-!
# Texts cut at a separator

* `splitAt`: the pieces between the separators, always at least one.
* `intercalate_splitAt`: the pieces with the separator between them make the text again.
* `not_mem_of_mem_splitAt`: no piece holds the separator.
-/

namespace SyntheticInput.Text

variable {α : Type} [DecidableEq α]

/-- The pieces of a list between its separators; empty ones stand where separators meet or stand
at an end. -/
def splitAt (sep : α) : List α → List (List α)
  | [] => [[]]
  | c :: cs =>
    if c = sep then [] :: splitAt sep cs
    else
      match splitAt sep cs with
      | [] => [[c]]
      | p :: ps => (c :: p) :: ps

theorem splitAt_ne_nil (sep : α) (cs : List α) : splitAt sep cs ≠ [] := by
  cases cs with
  | nil => simp [splitAt]
  | cons c cs =>
    rw [splitAt]
    split
    · simp
    · split <;> simp

theorem intercalate_splitAt (sep : α) (cs : List α) : [sep].intercalate (splitAt sep cs) = cs := by
  induction cs with
  | nil => simp [splitAt]
  | cons c cs ih =>
    rw [splitAt]
    match h : splitAt sep cs with
    | [] => exact absurd h (splitAt_ne_nil sep cs)
    | p :: ps =>
      rw [h] at ih
      split
      · next hc => subst hc; simpa using ih
      · cases ps <;> simp_all [List.intercalate]

theorem not_mem_of_mem_splitAt {sep : α} {p : List α} :
    ∀ {cs : List α}, p ∈ splitAt sep cs → sep ∉ p
  | [], h => by simp_all [splitAt]
  | c :: cs, h => by
    have ih := fun q => @not_mem_of_mem_splitAt sep q cs
    rw [splitAt] at h
    match hs : splitAt sep cs with
    | [] => exact absurd hs (splitAt_ne_nil sep cs)
    | q :: qs =>
      rw [hs] at h ih
      split at h
      · rcases List.mem_cons.1 h with rfl | h
        · simp
        · exact ih p h
      · next hc =>
        rcases List.mem_cons.1 h with rfl | h
        · simpa [Ne.symm hc] using ih q List.mem_cons_self
        · exact ih p (List.mem_cons_of_mem q h)

/-- The lines of a text. -/
def lines (s : String) : List String := (splitAt '\n' s.toList).map String.ofList

end SyntheticInput.Text
