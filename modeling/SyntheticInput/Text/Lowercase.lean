import SyntheticInput.Text.CaseTable

/-!
# Full Unicode lowercase

Every character is replaced by its lowercase form. Two forms are not one fixed character: `İ`
becomes an `i` with a combining dot, and a capital sigma becomes `ς` at the end of a word and `σ`
elsewhere.

* `lower`: the lowercase form of a text.
* `endsWord`: when a sigma counts as the last letter of its word.
-/

namespace SyntheticInput.Text

/-- The character is a letter that has or is a case form. -/
def isCased (c : Char) : Bool := inRanges casedRanges c.toNat

/-- The character is skipped when the neighbours of a sigma are looked up. -/
def isCaseIgnorable (c : Char) : Bool := inRanges caseIgnorableRanges c.toNat

/-- The image of a character under the first run that holds it, and the character itself where
none does. -/
def mapCase (runs : List CaseRun) (c : Char) : Char :=
  match runs.findSome? (·.image? c.toNat) with
  | some n => Char.ofNat n
  | none => c

/-- The lowercase form of a character apart from its place in the text. -/
def lowerChar (c : Char) : List Char :=
  if c = 'İ' then ['i', '\u0307'] else [mapCase lowercaseRuns c]

/-- The first character that is not ignorable is a cased letter. -/
def meetsLetter (cs : List Char) : Bool :=
  match cs.dropWhile isCaseIgnorable with
  | [] => false
  | c :: _ => isCased c

/-- Between `before` (nearest character first) and `after` a word ends: a letter comes before and
none follows. -/
def endsWord (before after : List Char) : Bool := meetsLetter before && !meetsLetter after

/-- The lowercase form of `cs` where the characters of `before`, nearest first, precede it. -/
def lowerAfter (before : List Char) : List Char → List Char
  | [] => []
  | c :: cs =>
    (if c = 'Σ' then [if endsWord before cs then 'ς' else 'σ'] else lowerChar c) ++
      lowerAfter (c :: before) cs

/-- The lowercase form of a text. -/
def lower (s : String) : String := String.ofList (lowerAfter [] s.toList)

end SyntheticInput.Text
