import Mathlib.Data.Option.NAry
import SyntheticInput.Proofs.Event.Object

/-!
# Reading the lines of events

The kind of an event is the first member of its object. It tells the two devices apart, and which
members follow.

* `narrow?`: an integer as a value of a smaller type.
* `Event.head?_fields_ne`: the kinds of key inputs are not those of mouse inputs.
* `Event.ofFields?`, `Event.ofFields?_eq_some_iff`: the event with the given kind and data, of which
  there is one at most.
* `Event.ofLine?`, `Event.ofLine?_eq_some_iff`: an event is read from its line, and from no other
  text.
* `Event.unbroken`: nothing breaks a line.
-/

namespace SyntheticInput

/-! ## Data -/

section Narrow

variable {α : Type} {toInt : α → Int} {ofInt : Int → α} {n : Int} {a : α}

/-- The value of a smaller type that stands for an integer, if there is one. -/
def narrow? (toInt : α → Int) (ofInt : Int → α) (n : Int) : Option α :=
  if toInt (ofInt n) = n then some (ofInt n) else none

theorem narrow?_eq_some_iff (h : ∀ a, ofInt (toInt a) = a) :
    narrow? toInt ofInt n = some a ↔ n = toInt a := by
  rw [narrow?]
  constructor
  · intro ha
    split at ha
    · next hn =>
      obtain rfl := Option.some.inj ha
      exact hn.symm
    · cases ha
  · rintro rfl
    rw [h, if_pos rfl]

end Narrow

/-- The key with a given number. -/
def KeyId.ofInt? : Int → Option KeyId := narrow? (fun id => id.toNat) fun n => .ofNat n.toNat

theorem KeyId.ofInt?_eq_some_iff {n : Int} {id : KeyId} : ofInt? n = some id ↔ n = id.toNat :=
  narrow?_eq_some_iff fun id => by rw [Int.toNat_natCast, UInt16.ofNat_toNat]

/-- The button with a given label. -/
def Button.ofLabel? (l : String) : Option Button := all.find? fun b => b.label == l

theorem Button.ofLabel?_eq_some_iff {l : String} {b : Button} :
    ofLabel? l = some b ↔ l = b.label := by
  constructor
  · intro h
    unfold ofLabel? at h
    have hb := List.find?_some h
    exact (beq_iff_eq.1 hb).symm
  · rintro rfl
    cases b <;> decide

/-- The data sent along with a button. -/
def extraData? : Int → Option UInt32 := narrow? (fun x => x.toNat) fun n => .ofNat n.toNat

theorem extraData?_eq_some_iff {n : Int} {x : UInt32} : extraData? n = some x ↔ n = x.toNat :=
  narrow?_eq_some_iff fun x => by rw [Int.toNat_natCast, UInt32.ofNat_toNat]

/-- A coordinate, or the difference of two. -/
def coordinate? : Int → Option Int32 := narrow? Int32.toInt Int32.ofInt

theorem coordinate?_eq_some_iff {n : Int} {x : Int32} : coordinate? n = some x ↔ n = x.toInt :=
  narrow?_eq_some_iff Int32.ofInt_toInt

namespace Event

/-! ## Events -/

/-- The event with the given kind and data, all in the order in which they are written. -/
def ofFields? : Object → Option Event
  | [("event", .word "down"), ("key", .number n)] => (KeyId.ofInt? n).map keyDown
  | [("event", .word "up"), ("key", .number n)] => (KeyId.ofInt? n).map keyUp
  | [("event", .word "button"), ("button", .word l), ("down", .flag down),
      ("extra_data", .number n)] =>
    Option.map₂ (fun b x => mouse (.button b down x)) (Button.ofLabel? l) (extraData? n)
  | [("event", .word "move"), ("dx", .number dx), ("dy", .number dy)] =>
    Option.map₂ move (coordinate? dx) (coordinate? dy)
  | [("event", .word "set_position"), ("x", .number x), ("y", .number y)] =>
    Option.map₂ (fun x y => setPosition ⟨x, y⟩) (coordinate? x) (coordinate? y)
  | _ => none

/-- The kind of a key input is no kind of a mouse input. -/
theorem head?_fields_ne (k : KeyEvent) (m : MouseEvent) :
    (key k).fields.head? ≠ (mouse m).fields.head? := by
  cases k <;> cases m <;> simp [fields]

/-- Kind and data are those of one event only. -/
theorem ofFields?_eq_some_iff {fs : Object} {e : Event} : ofFields? fs = some e ↔ fs = e.fields := by
  constructor
  · intro h
    unfold ofFields? at h
    split at h
    · obtain ⟨id, hid, rfl⟩ := Option.map_eq_some_iff.1 h
      rw [KeyId.ofInt?_eq_some_iff.1 hid]
      rfl
    · obtain ⟨id, hid, rfl⟩ := Option.map_eq_some_iff.1 h
      rw [KeyId.ofInt?_eq_some_iff.1 hid]
      rfl
    · obtain ⟨b, x, hb, hx, rfl⟩ := Option.map₂_eq_some_iff.1 h
      rw [Button.ofLabel?_eq_some_iff.1 hb, extraData?_eq_some_iff.1 hx]
      rfl
    · obtain ⟨dx, dy, hdx, hdy, rfl⟩ := Option.map₂_eq_some_iff.1 h
      rw [coordinate?_eq_some_iff.1 hdx, coordinate?_eq_some_iff.1 hdy]
      rfl
    · obtain ⟨x, y, hx, hy, rfl⟩ := Option.map₂_eq_some_iff.1 h
      rw [coordinate?_eq_some_iff.1 hx, coordinate?_eq_some_iff.1 hy]
      rfl
    · cases h
  · rintro rfl
    match e with
    | .key (.down id) => exact Option.map_eq_some_iff.2 ⟨id, KeyId.ofInt?_eq_some_iff.2 rfl, rfl⟩
    | .key (.up id) => exact Option.map_eq_some_iff.2 ⟨id, KeyId.ofInt?_eq_some_iff.2 rfl, rfl⟩
    | .mouse (.button b down x) =>
      exact Option.map₂_eq_some_iff.2
        ⟨b, x, Button.ofLabel?_eq_some_iff.2 rfl, extraData?_eq_some_iff.2 rfl, rfl⟩
    | .mouse (.move dx dy) =>
      exact Option.map₂_eq_some_iff.2
        ⟨dx, dy, coordinate?_eq_some_iff.2 rfl, coordinate?_eq_some_iff.2 rfl, rfl⟩
    | .mouse (.setPosition p) =>
      exact Option.map₂_eq_some_iff.2
        ⟨p.x, p.y, coordinate?_eq_some_iff.2 rfl, coordinate?_eq_some_iff.2 rfl, rfl⟩

/-! ## Lines -/

theorem line_eq (e : Event) : e.line = Object.text e.fields := rfl

theorem isSymbol_label (b : Button) : Text.IsSymbol b.label := by
  unfold Text.IsSymbol
  cases b <;> decide

/-- The names and words of events are symbols. -/
theorem plain_fields (e : Event) : Object.Plain e.fields := by
  have hwords : ∀ w ∈ ["event", "down", "up", "key", "button", "extra_data", "move", "dx", "dy",
      "set_position", "x", "y"], Text.IsSymbol w := by
    unfold Text.IsSymbol
    decide
  simp only [List.forall_mem_cons] at hwords
  rcases e with (_ | _) | (_ | _ | _) <;>
    simp [fields, Object.Plain, Member.Plain, Field.Plain, hwords, isSymbol_label]

/-- The event whose line a text is. -/
def ofLine? (s : String) : Option Event := (Object.ofText? s.toList).bind ofFields?

/-- An event is read from its line, and from no other text. -/
theorem ofLine?_eq_some_iff {s : String} {e : Event} : ofLine? s = some e ↔ s = e.line := by
  rw [ofLine?, line_eq]
  constructor
  · intro h
    obtain ⟨fs, hfs, he⟩ := Option.bind_eq_some_iff.1 h
    obtain rfl := ofFields?_eq_some_iff.1 he
    exact String.toList_inj.1 (Object.ofText?_eq_some_iff.1 hfs).1
  · rintro rfl
    exact Option.bind_eq_some_iff.2 ⟨e.fields,
      Object.ofText?_eq_some_iff.2 ⟨rfl, plain_fields e⟩, ofFields?_eq_some_iff.2 rfl⟩

example : ofLine? "\x7b\"event\":\"move\",\"dx\":3,\"dy\":-1\x7d" = some (.move 3 (-1)) := by decide

/-- No number is written with a zero in front. -/
example : ofLine? "\x7b\"event\":\"up\",\"key\":065\x7d" = none := by decide

/-- Nothing breaks a line. -/
theorem unbroken (e : Event) : ∀ c ∈ Text.lineBreaks, c ∉ e.line.toList := by
  intro c hc h
  have hall : (Text.lineBreaks.all fun c => !Object.isObjectChar c) = true := by decide
  have hbreak := List.all_eq_true.1 hall c hc
  rw [Object.isObjectChar_of_mem (plain_fields e) h] at hbreak
  cases hbreak

end Event

end SyntheticInput
