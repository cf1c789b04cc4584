/-!
# Lines of input

Bytes are cut behind each line feed, and each line is decoded on its own. A line that is no UTF-8
ends the reading: the lines before it count, those behind it are never seen.

* `cutLines`: the lines with the line feeds that end them.
* `lineText?`: the text of a line.
* `Input`, `Input.ofBytes`: the lines that can be read.
-/

namespace SyntheticInput.CommandLine

/-- The lines of some bytes, each with its line feed; only the last may have none. -/
def cutLines : List UInt8 → List (List UInt8)
  | [] => []
  | b :: bs =>
    if b = 10 then [b] :: cutLines bs
    else
      match cutLines bs with
      | [] => [[b]]
      | l :: ls => (b :: l) :: ls

/-- A line without the line feed at its end and one carriage return before that. -/
def withoutEnd (line : List UInt8) : List UInt8 :=
  match line.reverse with
  | 10 :: 13 :: r => r.reverse
  | 10 :: r => r.reverse
  | _ => line

/-- The text of a line, if it is UTF-8. -/
def lineText? (line : List UInt8) : Option String :=
  String.fromUTF8? ⟨(withoutEnd line).toArray⟩

/-- What can be read of some input. -/
structure Input where
  /-- The lines that can be read, in order. -/
  lines : List String := []
  /-- No line stopped the reading. -/
  complete : Bool := true
  deriving Repr, DecidableEq

/-- Reads lines up to the first that is no UTF-8. -/
def Input.ofLines : List (List UInt8) → Input
  | [] => {}
  | l :: ls =>
    match lineText? l with
    | none => { complete := false }
    | some text =>
      let rest := ofLines ls
      { rest with lines := text :: rest.lines }

/-- What can be read of some bytes. -/
def Input.ofBytes (bytes : List UInt8) : Input := ofLines (cutLines bytes)

end SyntheticInput.CommandLine
