import SyntheticInput.Text.Numeral

/-!
# Texts of pauses

* `pauseText`: a number of milliseconds in the largest fitting unit.
-/

namespace SyntheticInput

/-- Milliseconds as diagnostics show them: `0ns`, `12ms`, `1.5s`, with no zeros at the end of the
fraction. -/
def pauseText (ms : UInt64) : String :=
  let n := ms.toNat
  if n = 0 then "0ns"
  else if n < 1000 then Text.decimal n ++ "ms"
  else
    let fraction : List Char := Text.digitsBefore 10 (1000 + n % 1000) [] |>.drop 1
    let kept := (fraction.reverse.dropWhile (· = '0')).reverse
    Text.decimal (n / 1000) ++ String.ofList (if kept.isEmpty then [] else '.' :: kept) ++ "s"

end SyntheticInput
