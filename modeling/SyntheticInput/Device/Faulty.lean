import SyntheticInput.Device.Basic

/-!
# Devices that fail on purpose

Any devices can be wrapped so that each kind of call has a budget: once it is spent, further calls
of that kind fail before they reach the wrapped devices. A relative move can also be made to ask
for cancellation.

* `Call`: the kinds of calls that have a budget.
* `Budgets`: how many calls of each kind still get through.
* `Faults`: the budgets and the number of moves until the request to cancel.
* `Faults.spend?`: takes one call from a budget.
* `Faulty`: devices behind their faults.
-/

namespace SyntheticInput

/-- The kinds of calls that have a budget of their own. -/
inductive Call where
  | button | move | setPosition | position | keyDown | keyUp
  deriving Repr, DecidableEq

/-- The name of a kind of call in failure reasons. -/
def Call.name : Call → String
  | button => "button"
  | move => "move"
  | setPosition => "set_position"
  | position => "position"
  | keyDown => "key_down"
  | keyUp => "key_up"

/-- The kind of call by which an event is sent. -/
def Event.call : Event → Call
  | .key (.down _) => .keyDown
  | .key (.up _) => .keyUp
  | .mouse (.button ..) => .button
  | .mouse (.move ..) => .move
  | .mouse (.setPosition _) => .setPosition

/-- How many calls of each kind still get through; nothing means any number. -/
structure Budgets where
  button : Option Nat := none
  move : Option Nat := none
  setPosition : Option Nat := none
  position : Option Nat := none
  keyDown : Option Nat := none
  keyUp : Option Nat := none
  deriving Repr, DecidableEq

namespace Budgets

/-- The budget of a kind of calls. -/
def get (b : Budgets) : Call → Option Nat
  | .button => b.button
  | .move => b.move
  | .setPosition => b.setPosition
  | .position => b.position
  | .keyDown => b.keyDown
  | .keyUp => b.keyUp

/-- Sets the budget of a kind of calls. -/
def put (b : Budgets) (c : Call) (n : Option Nat) : Budgets :=
  match c with
  | .button => { b with button := n }
  | .move => { b with move := n }
  | .setPosition => { b with setPosition := n }
  | .position => { b with position := n }
  | .keyDown => { b with keyDown := n }
  | .keyUp => { b with keyUp := n }

end Budgets

/-- What goes wrong with the devices, and how many successful relative moves it takes until a
cancellation is asked for. -/
structure Faults where
  budgets : Budgets := {}
  /-- Failures name the platform as their cause. -/
  platform : Bool := false
  cancelAfter : Option Nat := none
  deriving Repr, DecidableEq

namespace Faults

/-- No call fails and no cancellation is asked for. -/
def none : Faults := {}

/-- The error of a call whose budget is spent. -/
def error (f : Faults) (c : Call) : DeviceError :=
  if f.platform then .platformNotSupported
  else .operation ("injected " ++ c.name ++ " failure")

/-- Takes one call from its budget; fails when there is none left. -/
def spend? (f : Faults) (c : Call) : Except DeviceError Faults :=
  match f.budgets.get c with
  | .none => .ok f
  | some 0 => .error (f.error c)
  | some (n + 1) => .ok { f with budgets := f.budgets.put c (some n) }

/-- Counts a successful relative move: whether it asks for cancellation, and the faults left. -/
def countMove (f : Faults) : Bool × Faults :=
  match f.cancelAfter with
  | .none => (false, f)
  | some n =>
    if n ≤ 1 then (true, { f with cancelAfter := .none })
    else (false, { f with cancelAfter := some (n - 1) })

end Faults

/-- Devices behind injected faults. -/
structure Faulty (δ : Type) where
  inner : δ
  faults : Faults := {}

namespace Faulty

variable {δ : Type} [Devices δ]

/-- Sends an event through the budget of its kind; a relative move that succeeds is counted. -/
def attempt (e : Event) (d : Faulty δ) : Attempt (Faulty δ) :=
  match d.faults.spend? e.call with
  | .error cause => { result := .error cause, devices := d }
  | .ok faults =>
    let a := Devices.attempt e d.inner
    let (cancels, faults) :=
      if e.call = .move ∧ a.result.isOk then faults.countMove else (false, faults)
    { result := a.result, devices := ⟨a.devices, faults⟩, cancels := a.cancels || cancels,
      notes := a.notes }

/-- Asks for the cursor through the budget of such queries. -/
def position : Act (Faulty δ) DeviceError Point := fun d =>
  match d.faults.spend? .position with
  | .error cause => ⟨.error cause, d, []⟩
  | .ok faults =>
    let o := (Devices.position : Act δ DeviceError Point) d.inner
    ⟨o.result, ⟨o.state, faults⟩, o.notes⟩

instance : Devices (Faulty δ) where
  attempt := attempt
  position := position

end Faulty

end SyntheticInput
