/-!
# Text without terminal control

Diagnostics may quote any input. Control characters in it, white space apart, are left out, and so
are the escape sequences by which a terminal is controlled. White space inside a short sequence is
shown, and with it a run of text up to the next control character; behind the run the sequence
goes on, unless a character outside ASCII stood in it.

* `Mode`: where a reader is among escape sequences.
* `Reader`, `Reader.read`: what one character does.
* `plain`: the text without what controls a terminal.
* `plain_append`: a text that is shown as a whole stays as it is, whatever follows.
-/

namespace SyntheticInput.CommandLine

/-- Where a reader is among escape sequences. -/
inductive Mode where
  | text
  /-- Behind an escape character. -/
  | escape
  /-- In an escape sequence of several characters. -/
  | intermediate
  /-- In the parameters of a control sequence. -/
  | parameters
  /-- At the start of a device control string. -/
  | deviceStart
  /-- In the parameters of a device control string. -/
  | deviceParameters
  /-- Behind the parameters of a device control string. -/
  | deviceIntermediate
  /-- In a string that a terminator ends. -/
  | data
  /-- In a string that a bell ends. -/
  | title
  deriving Repr, DecidableEq

/-- A control character that stands for white space. -/
def isSpacing (c : Char) : Bool := c = '\t' || c = '\n' || c = '\x0c' || c = '\r'

/-- A control character of ASCII. -/
def isControl (c : Char) : Bool := c.toNat < 0x20 || c.toNat = 0x7F

/-- The character is left in a text. -/
def isShown (c : Char) : Bool := !isControl c || isSpacing c

/-- The encoding of the character holds the byte `9C`, which terminates strings. -/
def holdsTerminator (c : Char) : Bool :=
  let n := c.toNat
  0x80 ≤ n && (n % 64 = 0x1C || (0x800 ≤ n && n / 64 % 64 = 0x1C) ||
    (0x10000 ≤ n && n / 4096 % 64 = 0x1C))

namespace Mode

/-- White space is shown and does not end the sequence. -/
def showsSpacing : Mode → Bool
  | text | escape | intermediate | parameters => true
  | deviceStart | deviceParameters | deviceIntermediate | data | title => false

/-- The mode behind the character that follows an escape character. -/
def afterEscape (c : Char) : Mode :=
  if c = '[' then parameters
  else if c = ']' then title
  else if c = 'P' then deviceStart
  else if c = 'X' ∨ c = '^' ∨ c = '_' then data
  else if ' ' ≤ c ∧ c ≤ '/' then intermediate
  else if '0' ≤ c ∧ c ≤ '~' then text
  else escape

/-- The mode behind a character that is not shown and neither begins nor cancels a sequence. -/
def after (m : Mode) (c : Char) : Mode :=
  match m with
  | text => text
  | escape => afterEscape c
  | intermediate => if '0' ≤ c ∧ c ≤ '~' then text else intermediate
  | parameters => if '@' ≤ c ∧ c ≤ '~' then text else parameters
  | deviceStart =>
    if '@' ≤ c ∧ c ≤ '~' then data
    else if '0' ≤ c ∧ c ≤ '?' then deviceParameters
    else if ' ' ≤ c ∧ c ≤ '/' then deviceIntermediate
    else deviceStart
  | deviceParameters =>
    if '<' ≤ c ∧ c ≤ '~' then data
    else if ' ' ≤ c ∧ c ≤ '/' then deviceIntermediate
    else deviceParameters
  | deviceIntermediate => if '0' ≤ c ∧ c ≤ '~' then data else deviceIntermediate
  | data => if holdsTerminator c then text else data
  | title => if c = '\x07' then text else title

end Mode

/-- A reader of text with escape sequences. -/
structure Reader where
  mode : Mode := .text
  /-- In a run of characters that are shown, whatever the mode. -/
  showing : Bool := false
  deriving Repr, DecidableEq

namespace Reader

/-- What a character does outside a run: the reader behind it, and whether it is left. -/
def readApart (m : Mode) (c : Char) : Reader × Bool :=
  if c = '\x1b' then ({ mode := .escape }, false)
  else if c = '\x18' ∨ c = '\x1a' then ({ mode := .text }, false)
  else if (m = .text && isShown c) || (m.showsSpacing && isSpacing c) then
    ({ mode := m, showing := true }, true)
  else ({ mode := m.after c }, false)

/-- What a character does: the reader behind it, and whether it is left in the text. -/
def read (r : Reader) (c : Char) : Reader × Bool :=
  if r.showing && isShown c then (if c.toNat < 0x80 then r else { r with mode := .text }, true)
  else readApart r.mode c

/-- The characters that are left of some. -/
def left (r : Reader) : List Char → List Char
  | [] => []
  | c :: cs =>
    let (next, shown) := r.read c
    if shown then c :: next.left cs else next.left cs

end Reader

/-- The text without what controls a terminal. -/
def plain (s : String) : String := String.ofList (Reader.left {} s.toList)

namespace Reader

variable {r : Reader} {c : Char} {cs : List Char}

theorem readApart_of_isShown (h : isShown c = true) : readApart .text c = (⟨.text, true⟩, true) := by
  have h1 : c ≠ '\x1b' := by rintro rfl; cases h
  have h2 : c ≠ '\x18' := by rintro rfl; cases h
  have h3 : c ≠ '\x1a' := by rintro rfl; cases h
  simp [readApart, h, h1, h2, h3]

/-- Outside escape sequences it makes no difference whether a run goes on or begins. -/
theorem read_of_text (hr : r.mode = .text) (c : Char) : r.read c = readApart .text c := by
  obtain ⟨m, showing⟩ := r
  subst hr
  cases showing with
  | false => rfl
  | true =>
    cases h : isShown c with
    | false => simp [read, h]
    | true =>
      rw [readApart_of_isShown h]
      simp [read, h]

theorem left_of_text (hr : r.mode = .text) (cs : List Char) : r.left cs = left {} cs := by
  cases cs with
  | nil => rfl
  | cons c cs => rw [left, left, read_of_text hr, read_of_text (r := {}) rfl]

/-- Characters that are shown are left as they are, and what follows is read as if it stood alone. -/
theorem left_append (hr : r.mode = .text) (h : ∀ c ∈ cs, isShown c = true) (ds : List Char) :
    r.left (cs ++ ds) = cs ++ left {} ds := by
  induction cs generalizing r with
  | nil => exact left_of_text hr ds
  | cons c cs ih =>
    have hc : r.read c = (⟨.text, true⟩, true) := by
      rw [read_of_text hr, readApart_of_isShown (h c List.mem_cons_self)]
    rw [List.cons_append, left, hc]
    exact congrArg (c :: ·) (ih rfl fun d hd => h d (List.mem_cons_of_mem c hd))

end Reader

/-- A text whose characters are all shown is left as it is in front of any other. -/
theorem plain_append {s : String} (h : ∀ c ∈ s.toList, isShown c = true) (t : String) :
    plain (s ++ t) = s ++ plain t := by
  unfold plain
  rw [String.toList_append, Reader.left_append rfl h, String.ofList_append, String.ofList_toList]

end SyntheticInput.CommandLine
