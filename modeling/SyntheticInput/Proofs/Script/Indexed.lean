import SyntheticInput.Proofs.Text.Words
import SyntheticInput.Script.Basic

/-!
# Reading a line by positions

A directive can be read by the positions of its tokens instead of by their pattern: the first token
is looked at, the rest is counted, and only then the arguments are fetched. A position past the last
token makes such a reader stop short. That never happens, because the count guards every fetch.

* `Indexed`: a reader that may find a line invalid and may stop short.
* `ofLineByIndex?`: the reader of lines by positions.
* `run_ofLineByIndex?`: it never stops short and reads what `Instruction.ofLine?` reads.
-/

namespace SyntheticInput.Instruction

open Decimal (readInt32? readFloat? readUInt64?)

/-- A reader that may find a line invalid and may stop short at a position that is not there. -/
abbrev Indexed (α : Type) := ExceptT ScriptError Option α

variable {α β : Type}

/-- A reader that does not stop short. -/
def reached (r : Except ScriptError α) : Indexed α := ExceptT.mk (some r)

theorem reached_bind (r : Except ScriptError α) (f : α → Except ScriptError β) :
    reached (r >>= f) = reached r >>= fun a => reached (f a) := by
  cases r <;> rfl

theorem reached_map (r : Except ScriptError α) (f : α → β) :
    f <$> reached r = reached (r.map f) := by
  cases r <;> rfl

/-- The token at a position. -/
def tokenAt (tokens : List String) (i : Nat) : Indexed String := ExceptT.lift tokens[i]?

/-- Counts the tokens behind the first. -/
def expectArguments (d : Directive) (tokens : List String) : Indexed Unit :=
  let given := tokens.length - 1
  if given < d.leastArgs ∨ d.mostArgs < given then
    reached (.error (.invalid d (.wrongCount given)))
  else reached (.ok ())

/-- The argument at a position, read by `read`. -/
def argumentAt (d : Directive) (read : String → Option α) (tokens : List String) (i : Nat) :
    Indexed α := do
  reached (argument d read (← tokenAt tokens i))

/-- The argument at a position, if there is one. -/
def argumentAt? (d : Directive) (read : String → Option α) (tokens : List String) (i : Nat) :
    Indexed (Option α) :=
  match tokens[i]? with
  | some token => some <$> reached (argument d read token)
  | none => pure none

/-- The instruction of a directive. The fourth token is the only one that may be missing. -/
def ofDirectiveByIndex (d : Directive) (tokens : List String) : Indexed Instruction := do
  expectArguments d tokens
  match d with
  | .move =>
    return .move (← argumentAt d readInt32? tokens 1) (← argumentAt d readInt32? tokens 2)
      (← argumentAt? d readFloat? tokens 3)
  | .setPosition =>
    return .setPosition (← argumentAt d readInt32? tokens 1) (← argumentAt d readInt32? tokens 2)
  | .sleep => return .sleep (← argumentAt d readUInt64? tokens 1)

/-- What a line asks for. -/
def ofLineByIndex? (line : String) : Indexed (Option Instruction) := do
  let text := Text.trim line.toList
  if text = [] ∨ text.head? = some '#' then return none
  let tokens := (Text.words text).map String.ofList
  match Directive.ofWord? (← tokenAt tokens 0) with
  | some d => some <$> ofDirectiveByIndex d tokens
  | none => return some (.key (.ofList text))

/-- With a wrong count no argument is fetched. -/
theorem ofDirectiveByIndex_miscounted {d : Directive} {word : String} {args : List String}
    (h : args.length < d.leastArgs ∨ d.mostArgs < args.length) :
    ofDirectiveByIndex d (word :: args) =
      reached (.error (.invalid d (.wrongCount args.length))) := by
  unfold ofDirectiveByIndex expectArguments
  rw [List.length_cons, Nat.add_sub_cancel]
  dsimp only
  rw [if_pos h]
  rfl

/-- The count admits no position that is not there. -/
theorem ofDirectiveByIndex_eq (d : Directive) (word : String) (args : List String) :
    ofDirectiveByIndex d (word :: args) = reached (ofDirective d args) := by
  match d, args with
  | .move, [] | .move, [_] | .setPosition, [] | .setPosition, [_] | .sleep, [] => rfl
  | .move, [x, y] =>
    rw [ofDirective]
    simp only [reached_bind]
    rfl
  | .move, [x, y, speed] =>
    have hspeed : argumentAt? .move readFloat? [word, x, y, speed] 3 =
        some <$> reached (argument .move readFloat? speed) := rfl
    rw [ofDirective, ofDirectiveByIndex, hspeed]
    simp only [reached_bind, bind_map_left]
    rfl
  | .setPosition, [x, y] =>
    rw [ofDirective]
    simp only [reached_bind]
    rfl
  | .sleep, [ms] =>
    rw [ofDirective, reached_bind]
    rfl
  | .move, _ :: _ :: _ :: _ :: _ | .setPosition, _ :: _ :: _ :: _ | .sleep, _ :: _ :: _ =>
    exact ofDirectiveByIndex_miscounted (.inr (by simp [Directive.mostArgs]))

/-- **No position past the last token is ever looked at.** The reader by positions reaches a result
for every line, and it is what the line asks for. -/
theorem run_ofLineByIndex? (line : String) : (ofLineByIndex? line).run = some (ofLine? line) := by
  have hlast : ofLineByIndex? line = reached (ofLine? line) := by
    unfold ofLineByIndex? ofLine?
    dsimp only
    rw [Text.words_trim]
    rcases Text.trim_cases line.toList with ⟨ht, hw⟩ | ⟨c, rest, w, ws, ht, hw⟩
    · rw [ht, hw, if_pos (.inl rfl)]
      rfl
    · rw [ht, hw]
      by_cases hc : c = '#'
      · rw [hc, if_pos (.inr rfl)]
        rfl
      · have hne : ¬ (c :: rest = [] ∨ (c :: rest).head? = some '#') := by simpa using hc
        rw [if_neg hne]
        have hhead : ¬ (c :: w).head? = some '#' := by simpa using hc
        have h0 : tokenAt (((c :: w) :: ws).map String.ofList) 0 = pure (.ofList (c :: w)) := rfl
        dsimp only
        rw [if_neg hhead, h0, pure_bind, List.map_cons]
        cases Directive.ofWord? (.ofList (c :: w)) with
        | none => rfl
        | some d =>
          dsimp only
          rw [ofDirectiveByIndex_eq, reached_map]
  rw [hlast]
  rfl

end SyntheticInput.Instruction
