/-!
# TOML values

* `Origin`: how a table came about, which decides what may be added to it.
* `Value`: the values of a document, its tables included.
* `find?`, `put`: entries of a table by key.
-/

namespace SyntheticInput.Toml

/-- How a table came about. -/
inductive Origin where
  /-- Written between braces; nothing can be added. -/
  | braces
  /-- Opened by a header of its own. -/
  | header
  /-- Implied by a header of a table inside it, to be opened later at most once. -/
  | implied
  /-- Made by a dotted key, to be extended by further dotted keys. -/
  | dotted
  deriving Repr, DecidableEq

/-- A value of a document. Dates and times are all one value: nothing here depends on which. -/
inductive Value where
  | string (s : String)
  | integer (i : Int)
  | float (x : Float)
  | boolean (b : Bool)
  | moment
  | array (items : List Value)
  | table (origin : Origin) (entries : List (String × Value))
  /-- Tables that were appended by headers of their own, in order. -/
  | tables (elements : List (List (String × Value)))

/-- The entries of a table: keys with their values, each key once. -/
abbrev Entries := List (String × Value)

/-- The value under a key. -/
def Entries.find? (es : Entries) (k : String) : Option Value := es.lookup k

/-- Puts a value under a key, in place of the one that was there. -/
def Entries.put (es : Entries) (k : String) (v : Value) : Entries :=
  if es.any (·.1 == k) then es.map fun e => if e.1 == k then (k, v) else e
  else es ++ [(k, v)]

end SyntheticInput.Toml
