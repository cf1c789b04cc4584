import SyntheticInput.Text.Lowercase

/-!
# One-character uppercase

* `upperChar`: the uppercase form of a character where that form is one character, and the
  character itself where it is several (`ß`, `ŉ`, the ligatures) or where there is none.
-/

namespace SyntheticInput.Text

/-- The uppercase form of a character, itself where the form is not one character. -/
def upperChar (c : Char) : Char := mapCase uppercaseRuns c

end SyntheticInput.Text
