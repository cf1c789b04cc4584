import SyntheticInput.Event
import SyntheticInput.Text.Numeral

/-!
# Events as lines of text

Each event is written as one JSON object on one line, its kind first and then its data in a fixed
order.

* `Field`: the forms that a value in such an object takes.
* `Event.fields`: the kind and the data of an event.
* `Event.line`: the object as text.
-/

namespace SyntheticInput

/-- A value in the object of an event. -/
inductive Field where
  | word (w : String)
  | number (n : Int)
  | flag (b : Bool)
  deriving Repr, DecidableEq

/-- The text of a value. Words are letters and underscores, so they need no escapes. -/
def Field.text : Field → String
  | word w => "\"" ++ w ++ "\""
  | number n => Text.signed n
  | flag b => if b then "true" else "false"

namespace Event

/-- The kind and the data of an event, in the order in which they are written. -/
def fields : Event → List (String × Field)
  | .key (.down id) => [("event", .word "down"), ("key", .number id.toNat)]
  | .key (.up id) => [("event", .word "up"), ("key", .number id.toNat)]
  | .mouse (.button b down data) =>
    [("event", .word "button"), ("button", .word b.label), ("down", .flag down),
      ("extra_data", .number data.toNat)]
  | .mouse (.move dx dy) =>
    [("event", .word "move"), ("dx", .number dx.toInt), ("dy", .number dy.toInt)]
  | .mouse (.setPosition p) =>
    [("event", .word "set_position"), ("x", .number p.x.toInt), ("y", .number p.y.toInt)]

/-- The object of an event as one line. -/
def line (e : Event) : String :=
  "\x7b" ++ ",".intercalate (e.fields.map fun f => "\"" ++ f.1 ++ "\":" ++ f.2.text) ++ "\x7d"

end Event

end SyntheticInput
