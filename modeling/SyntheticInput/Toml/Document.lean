import SyntheticInput.Toml.Number

/-!
# TOML documents

A text is read as a list of statements, and these are joined to the table that the document is.

* `readValue?`: a value, at most so many arrays and braces deep.
* `define?`: adds a key and its value to a table.
* `atPath?`: changes what a header names.
* `Section`, `readSections?`: a header with the keys below it.
* `parse?`: the table of a document.
-/

namespace SyntheticInput.Toml

/-! ## Joining keys and tables -/

/-- Adds a value under a dotted key. The tables on the way are made where they are missing; one
that was opened by a header or written between braces is left alone, and the last one has to have
been made by dotted keys as well, which `here` says of the table at hand. -/
def define? (here : Bool) : List String → Value → Entries → Option Entries
  | [], _, _ => none
  | [k], v, es => if here && (es.find? k).isNone then some (es.put k v) else none
  | k :: ks, v, es =>
    match es.find? k with
    | none => do some (es.put k (.table .dotted (← define? true ks v [])))
    | some (.table .dotted sub) => do some (es.put k (.table .dotted (← define? true ks v sub)))
    | some (.table .implied sub) => do
      some (es.put k (.table .implied (← define? false ks v sub)))
    | some (.tables ts) =>
      match ts.getLast? with
      | some last => do some (es.put k (.tables (ts.dropLast ++ [← define? false ks v last])))
      | none => none
    | some _ => none

/-- Adds keys and values in order. -/
def defineAll? : List (List String × Value) → Entries → Option Entries
  | [], es => some es
  | (path, v) :: rest, es => do defineAll? rest (← define? true path v es)

/-- Changes the value at the path of a header. The tables on the way are implied where they are
missing; of appended tables the last one is meant. -/
def atPath? (f : Option Value → Option Value) : List String → Entries → Option Entries
  | [], _ => none
  | [k], es => do some (es.put k (← f (es.find? k)))
  | k :: ks, es =>
    match es.find? k with
    | none => do some (es.put k (.table .implied (← atPath? f ks [])))
    | some (.table .braces _) => none
    | some (.table o sub) => do some (es.put k (.table o (← atPath? f ks sub)))
    | some (.tables ts) =>
      match ts.getLast? with
      | some last => do some (es.put k (.tables (ts.dropLast ++ [← atPath? f ks last])))
      | none => none
    | some _ => none

/-! ## Values -/

/-- The items of an array behind its opening bracket or a comma, with at most as many items as
there is fuel. -/
def readItems? (value : Reader Value) : Nat → Reader (List Value)
  | 0, _ => none
  | fuel + 1, cs =>
    match skipFiller false cs with
    | ']' :: rest => some ([], rest)
    | cs => do
      let (v, rest) ← value cs
      match skipFiller false rest with
      | ',' :: rest => do
        let (vs, rest) ← readItems? value fuel rest
        some (v :: vs, rest)
      | ']' :: rest => some ([v], rest)
      | _ => none

/-- A key, an equals sign and a value. -/
def readPair? (value : Reader Value) : Reader (List String × Value) := fun cs => do
  let (path, rest) ← readKey? cs
  match rest with
  | '=' :: rest => do
    let (v, rest) ← value (dropBlanks rest)
    some ((path, v), rest)
  | _ => none

/-- The pairs between braces from the first pair on, with at most as many pairs as there is
fuel. -/
def readPairs? (value : Reader Value) : Nat → Reader (List (List String × Value))
  | 0, _ => none
  | fuel + 1, cs => do
    let (p, rest) ← readPair? value cs
    match dropBlanks rest with
    | ',' :: rest => do
      let (ps, rest) ← readPairs? value fuel rest
      some (p :: ps, rest)
    | '}' :: rest => some ([p], rest)
    | _ => none

/-- A table between braces, behind the opening one. -/
def readBraces? (value : Reader Value) : Reader Value := fun cs =>
  match dropBlanks cs with
  | '}' :: rest => some (.table .braces [], rest)
  | cs => do
    let (pairs, rest) ← readPairs? value cs.length cs
    some (.table .braces (← defineAll? pairs []), rest)

/-- A value inside of which arrays and braces go at most `depth` deep. -/
def readValue? : Nat → Reader Value
  | depth, cs =>
    match cs with
    | '"' :: _ => (readString? cs).map fun (s, rest) => (.string (.ofList s), rest)
    | '\'' :: _ => (readString? cs).map fun (s, rest) => (.string (.ofList s), rest)
    | '[' :: rest =>
      match depth with
      | 0 => none
      | depth + 1 =>
        (readItems? (readValue? depth) (rest.length + 1) rest).map fun (vs, rest) =>
          (.array vs, rest)
    | '{' :: rest =>
      match depth with
      | 0 => none
      | depth + 1 => readBraces? (readValue? depth) rest
    | cs => readScalar? cs

/-! ## Documents -/

/-- Which table the keys below a header belong to. -/
inductive Header where
  /-- The document itself. -/
  | top
  | table (path : List String)
  /-- A table appended to those of the same name. -/
  | append (path : List String)
  deriving Repr, DecidableEq

/-- A header with the keys and values below it. -/
structure Section where
  header : Header
  pairs : List (List String × Value)

/-- A header behind its first bracket. -/
def readHeader? : Reader Header
  | '[' :: cs => do
    let (path, rest) ← readKey? cs
    match rest with
    | ']' :: ']' :: rest => some (.append path, rest)
    | _ => none
  | cs => do
    let (path, rest) ← readKey? cs
    match rest with
    | ']' :: rest => some (.table path, rest)
    | _ => none

/-- The lines of a document below `header`, of which `pairs` have been read, last first. There are
at most as many lines as there is fuel. -/
def readSections? : Nat → Header → List (List String × Value) → List Char →
    Option (List Section)
  | 0, _, _, _ => none
  | fuel + 1, header, pairs, cs =>
    match dropBlanks cs with
    | [] => some [⟨header, pairs.reverse⟩]
    | '#' :: rest => do readSections? fuel header pairs (← lineEnd? ('#' :: rest))
    | '\n' :: rest => readSections? fuel header pairs rest
    | '\r' :: '\n' :: rest => readSections? fuel header pairs rest
    | '[' :: rest => do
      let (next, rest) ← readHeader? rest
      let sections ← readSections? fuel next [] (← lineEnd? rest)
      some (⟨header, pairs.reverse⟩ :: sections)
    | cs => do
      let (pair, rest) ← readPair? (readValue? depthLimit) cs
      readSections? fuel header (pair :: pairs) (← lineEnd? rest)

/-- Joins a section to the document. A table can be opened once, and not at all when dotted keys
have made it. -/
def Section.join? (s : Section) (es : Entries) : Option Entries :=
  match s.header with
  | .top => defineAll? s.pairs es
  | .table path =>
    let opened : Option Value → Option Value
      | none => (defineAll? s.pairs []).map (.table .header)
      | some (.table .implied sub) => (defineAll? s.pairs sub).map (.table .header)
      | some _ => none
    atPath? opened path es
  | .append path =>
    let appended : Option Value → Option Value
      | none => (defineAll? s.pairs []).map fun t => .tables [t]
      | some (.tables ts) => (defineAll? s.pairs []).map fun t => .tables (ts ++ [t])
      | some _ => none
    atPath? appended path es

/-- Joins sections in order. -/
def joinAll? : List Section → Entries → Option Entries
  | [], es => some es
  | s :: rest, es => do joinAll? rest (← s.join? es)

/-- The text without a byte order mark at its front. -/
def dropMark : List Char → List Char
  | '\uFEFF' :: cs => cs
  | cs => cs

/-- The table of a document. -/
def parse? (text : String) : Option Entries := do
  let cs := dropMark text.toList
  joinAll? (← readSections? (cs.length + 1) .top [] cs) []

end SyntheticInput.Toml
