/-!
# Names compared without regard to ASCII case

Only the letters `A` to `Z` are folded; every other character stands for itself.

* `foldAscii`: the folded form of a name.
* `sameName`: equality of folded forms.
-/

namespace SyntheticInput.Text

/-- The name with `A` to `Z` replaced by `a` to `z`. -/
def foldAscii (s : String) : String := String.ofList (s.toList.map Char.toLower)

/-- The two names differ at most in the case of ASCII letters. -/
def sameName (a b : String) : Bool := foldAscii a == foldAscii b

@[simp] theorem sameName_self (a : String) : sameName a a = true := by simp [sameName]

theorem sameName_iff {a b : String} : sameName a b = true ↔ foldAscii a = foldAscii b := by
  simp [sameName]

theorem sameName_comm (a b : String) : sameName a b = sameName b a := by
  simp [sameName, BEq.comm]

end SyntheticInput.Text
