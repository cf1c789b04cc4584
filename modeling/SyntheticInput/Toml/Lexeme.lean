import SyntheticInput.Text.Numeral

/-!
# The smallest parts of a TOML text

A reader takes a text and gives what it read together with the rest, or nothing where the text is
not of the form it reads.

* `Reader`: readers over lists of characters.
* `isBlank`, `newline?`, `lineEnd?`, `skipFiller`: blanks, line breaks and comments.
* `readString?`, `readQuotedKey?`: the four kinds of strings, and the two that can be keys.
* `readKey?`: bare, quoted and dotted keys.
-/

namespace SyntheticInput.Toml

/-- What is read from the front of a text, and the rest. -/
abbrev Reader (α : Type) := List Char → Option (α × List Char)

/-- A space or a tab. -/
def isBlank (c : Char) : Bool := c = ' ' || c = '\t'

/-- The text without its leading spaces and tabs. -/
def dropBlanks (cs : List Char) : List Char := cs.dropWhile isBlank

/-- A character that may stand in a comment: a tab or anything that is no control character. -/
def isCommentChar (c : Char) : Bool :=
  c = '\t' || (0x20 ≤ c.toNat && c.toNat ≠ 0x7F)

/-- The text behind a line break; a carriage return breaks a line only in front of a line feed. -/
def newline? : List Char → Option (List Char)
  | '\n' :: cs => some cs
  | '\r' :: '\n' :: cs => some cs
  | _ => none

/-- The text behind a comment, if there is one at the front. -/
def dropComment : List Char → List Char
  | '#' :: cs => cs.dropWhile isCommentChar
  | cs => cs

/-- The text behind the rest of a line on which nothing but blanks and a comment stands. -/
def lineEnd? (cs : List Char) : Option (List Char) :=
  match dropComment (dropBlanks cs) with
  | [] => some []
  | rest => newline? rest

/-- The text without blanks, line breaks and comments at its front. Inside a comment everything up
to the line break goes; a character that may not stand there is left for the caller to refuse. -/
def skipFiller (inComment : Bool) : List Char → List Char
  | [] => []
  | '\n' :: cs => skipFiller false cs
  | '\r' :: '\n' :: cs => skipFiller false cs
  | c :: cs =>
    if inComment then if isCommentChar c then skipFiller true cs else c :: cs
    else if isBlank c then skipFiller false cs
    else if c = '#' then skipFiller true cs
    else c :: cs

/-! ## Strings -/

/-- A character that may stand in a string as it is. -/
def isStringChar (c : Char) : Bool := isCommentChar c

/-- The character with the given hexadecimal digits, unless they are no digits or name no
character. -/
def scalar? (ds : List Char) : Option Char :=
  let n := Text.digitsValue 16 ds
  if ds.all (Text.isDigitOf 16) && n.isValidChar then some (Char.ofNat n) else none

/-- The character that a one-letter escape stands for. -/
def shortEscape? : Char → Option Char
  | 'b' => some '\x08'
  | 't' => some '\t'
  | 'n' => some '\n'
  | 'f' => some '\x0c'
  | 'r' => some '\r'
  | '"' => some '"'
  | '\\' => some '\\'
  | _ => none

/-- Puts a character in front of what was read. -/
def prepend (c : Char) (r : Option (List Char × List Char)) : Option (List Char × List Char) :=
  r.map fun (s, rest) => (c :: s, rest)

/-- The rest of a basic string behind its opening quote. -/
def readBasic : Reader (List Char)
  | [] => none
  | '"' :: cs => some ([], cs)
  | '\\' :: 'u' :: a :: b :: c :: d :: cs => do
    let x ← scalar? [a, b, c, d]
    prepend x (readBasic cs)
  | '\\' :: 'U' :: a :: b :: c :: d :: e :: f :: g :: h :: cs => do
    let x ← scalar? [a, b, c, d, e, f, g, h]
    prepend x (readBasic cs)
  | '\\' :: e :: cs => do
    let x ← shortEscape? e
    prepend x (readBasic cs)
  | c :: cs => if c ≠ '\\' && isStringChar c then prepend c (readBasic cs) else none

/-- The rest of a literal string behind its opening apostrophe. -/
def readLiteral : Reader (List Char)
  | [] => none
  | c :: cs =>
    if c = '\'' then some ([], cs)
    else if isStringChar c then prepend c (readLiteral cs)
    else none

/-- Where a reader of a multi-line string stands. -/
inductive Multiline where
  | text
  /-- Behind a backslash and perhaps blanks: a line break has to follow. -/
  | lineEnd
  /-- Behind such a line break: blanks and line breaks are skipped. -/
  | skip
  deriving DecidableEq

/-- Three quotes close a multi-line string, and up to two further ones belong to its end. -/
def closeQuotes (q : Char) : List Char → List Char × List Char
  | a :: b :: cs =>
    if a = q ∧ b = q then ([q, q], cs) else if a = q then ([q], b :: cs) else ([], a :: b :: cs)
  | [a] => if a = q then ([q], []) else ([], [a])
  | [] => ([], [])

/-- The rest of a multi-line basic string behind its opening quotes. -/
def readMultiBasic : Multiline → Reader (List Char)
  | _, [] => none
  | .lineEnd, '\n' :: cs => readMultiBasic .skip cs
  | .lineEnd, '\r' :: '\n' :: cs => readMultiBasic .skip cs
  | .lineEnd, c :: cs => if isBlank c then readMultiBasic .lineEnd cs else none
  | .skip, '\n' :: cs => readMultiBasic .skip cs
  | .skip, '\r' :: '\n' :: cs => readMultiBasic .skip cs
  | .skip, ' ' :: cs => readMultiBasic .skip cs
  | .skip, '\t' :: cs => readMultiBasic .skip cs
  | _, '"' :: '"' :: '"' :: cs => some (closeQuotes '"' cs)
  | _, '\r' :: '\n' :: cs => prepend '\n' (readMultiBasic .text cs)
  | _, '\n' :: cs => prepend '\n' (readMultiBasic .text cs)
  | _, '\\' :: 'u' :: a :: b :: c :: d :: cs => do
    let x ← scalar? [a, b, c, d]
    prepend x (readMultiBasic .text cs)
  | _, '\\' :: 'U' :: a :: b :: c :: d :: e :: f :: g :: h :: cs => do
    let x ← scalar? [a, b, c, d, e, f, g, h]
    prepend x (readMultiBasic .text cs)
  | _, '\\' :: '\n' :: cs => readMultiBasic .skip cs
  | _, '\\' :: '\r' :: '\n' :: cs => readMultiBasic .skip cs
  | _, '\\' :: e :: cs =>
    if isBlank e then readMultiBasic .lineEnd cs
    else do
      let x ← shortEscape? e
      prepend x (readMultiBasic .text cs)
  | _, c :: cs =>
    if c ≠ '\\' && isStringChar c then prepend c (readMultiBasic .text cs) else none

/-- The rest of a multi-line literal string behind its opening apostrophes. -/
def readMultiLiteral : Reader (List Char)
  | [] => none
  | '\'' :: '\'' :: '\'' :: cs => some (closeQuotes '\'' cs)
  | '\r' :: '\n' :: cs => prepend '\n' (readMultiLiteral cs)
  | '\n' :: cs => prepend '\n' (readMultiLiteral cs)
  | c :: cs => if isStringChar c then prepend c (readMultiLiteral cs) else none

/-- The text without a line break at its front: one right behind the opening quotes does not
count. -/
def dropNewline (cs : List Char) : List Char := (newline? cs).getD cs

/-- A string of any kind. -/
def readString? : Reader (List Char)
  | '"' :: '"' :: '"' :: cs => readMultiBasic .text (dropNewline cs)
  | '\'' :: '\'' :: '\'' :: cs => readMultiLiteral (dropNewline cs)
  | '"' :: cs => readBasic cs
  | '\'' :: cs => readLiteral cs
  | _ => none

/-! ## Keys -/

/-- A character that may stand in a key without quotes. -/
def isBareChar (c : Char) : Bool := c.isAlphanum || c = '-' || c = '_'

/-- One part of a key. -/
def readPart? : Reader String
  | '"' :: cs => (readBasic cs).map fun (s, rest) => (.ofList s, rest)
  | '\'' :: cs => (readLiteral cs).map fun (s, rest) => (.ofList s, rest)
  | cs =>
    let name := cs.takeWhile isBareChar
    if name.isEmpty then none else some (.ofList name, cs.dropWhile isBareChar)

/-- Parts of a key with points between them, blanks around each; at most as many parts as there is
fuel, so that a key of too many parts is refused. -/
def readParts? : Nat → Reader (List String)
  | 0, _ => none
  | fuel + 1, cs => do
    let (part, rest) ← readPart? (dropBlanks cs)
    match dropBlanks rest with
    | '.' :: rest => do
      let (parts, rest) ← readParts? fuel rest
      some (part :: parts, rest)
    | rest => some ([part], rest)

/-- The greatest number of parts of a key, and of arrays and braces around a value. -/
def depthLimit : Nat := 79

/-- A key, with blanks around it. -/
def readKey? : Reader (List String) := readParts? depthLimit

end SyntheticInput.Toml
