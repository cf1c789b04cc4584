import SyntheticInput.Text.Numeral
import SyntheticInput.Text.PrintTable

/-!
# Quoted texts for diagnostics

A text is written between double quotes. A quote, a backslash and the usual control characters
have short escapes; whatever has no visible form of its own is written as its code point.

* `quote`: the quoted form of a text.
-/

namespace SyntheticInput.Text

/-- A code point in hexadecimal between braces. -/
def codePointEscape (c : Char) : String := "\\u\x7b" ++ hexLower c.toNat ++ "\x7d"

/-- How one character is written between the quotes. -/
def quoteChar (c : Char) : String :=
  if c = '"' then "\\\""
  else if c = '\\' then "\\\\"
  else if c = '\n' then "\\n"
  else if c = '\r' then "\\r"
  else if c = '\t' then "\\t"
  else if c.toNat = 0 then "\\0"
  else if extendsCluster c || !isPrintable c then codePointEscape c
  else c.toString

/-- The text between double quotes. -/
def quote (s : String) : String := "\"" ++ String.join (s.toList.map quoteChar) ++ "\""

end SyntheticInput.Text
