import SyntheticInput.Event.Line
import SyntheticInput.Proofs.Decimal.Integer
import SyntheticInput.Proofs.Text.Pieces

/-!
# Reading objects

An object is written as its members between braces, with commas between them, and a member as its
name and its value with a colon between them. Names and words are symbols, so neither commas nor
colons stand in them, and the text can be cut at these.

* `Text.IsSymbol`: letters, digits and underscores, which need no escapes.
* `Field.ofText?`, `Member.ofText?`, `Object.ofText?`: read a value, a member and an object.
* `Field.ofText?_eq_some_iff`, `Member.ofText?_eq_some_iff`, `Object.ofText?_eq_some_iff`: each is
  read from the text that it is written as, and from no other.
* `Object.isObjectChar_of_mem`: the characters that stand in the text of an object.
-/

namespace SyntheticInput

namespace Text

variable {cs mid : List Char} {w : String}

/-- A letter, a digit or an underscore. -/
def isSymbolChar (c : Char) : Bool := c.isAlphanum || c == '_'

/-- A text of letters, digits and underscores. -/
def IsSymbol (w : String) : Prop := w.toList.all isSymbolChar = true

/-- What stands between the characters `first` and `last`. -/
def between? (first last : Char) : List Char → Option (List Char)
  | [] => none
  | c :: cs => if c = first ∧ cs.getLast? = some last then some cs.dropLast else none

theorem between?_eq_some_iff {first last : Char} :
    between? first last cs = some mid ↔ cs = first :: (mid ++ [last]) := by
  cases cs with
  | nil => exact ⟨nofun, nofun⟩
  | cons c cs =>
    rw [between?]
    constructor
    · intro h
      split at h
      · next hc =>
        obtain ⟨rfl, hlast⟩ := hc
        obtain rfl := Option.some.inj h
        obtain ⟨cs, rfl⟩ := List.getLast?_eq_some_iff.1 hlast
        rw [List.dropLast_concat]
      · cases h
    · intro h
      obtain ⟨rfl, rfl⟩ := List.cons.inj h
      rw [if_pos ⟨rfl, List.getLast?_concat⟩, List.dropLast_concat]

/-- A symbol between quotes. -/
def readSymbol? (cs : List Char) : Option String :=
  (between? '"' '"' cs).bind fun w =>
    if w.all isSymbolChar then some (String.ofList w) else none

theorem toList_quoted (w : String) : ("\"" ++ w ++ "\"").toList = '"' :: (w.toList ++ ['"']) := by
  simp

theorem readSymbol?_eq_some_iff :
    readSymbol? cs = some w ↔ cs = ("\"" ++ w ++ "\"").toList ∧ IsSymbol w := by
  rw [toList_quoted, ← between?_eq_some_iff, readSymbol?, IsSymbol]
  constructor
  · intro h
    obtain ⟨v, hv, hw⟩ := Option.bind_eq_some_iff.1 h
    split at hw
    · next hall =>
      obtain rfl := Option.some.inj hw
      rw [String.toList_ofList]
      exact ⟨hv, hall⟩
    · cases hw
  · rintro ⟨h, hall⟩
    refine Option.bind_eq_some_iff.2 ⟨w.toList, h, ?_⟩
    rw [if_pos hall, String.ofList_toList]

end Text

open Text (IsSymbol isSymbolChar readSymbol?)

variable {cs : List Char}

/-! ## Values -/

/-- A word is a symbol. -/
def Field.Plain : Field → Prop
  | word w => IsSymbol w
  | _ => True

/-- A value: a word between quotes, a truth value or an integer. -/
def Field.ofText? (cs : List Char) : Option Field :=
  if cs.head? = some '"' then (readSymbol? cs).map .word
  else if cs = "true".toList then some (.flag true)
  else if cs = "false".toList then some (.flag false)
  else (Decimal.readInteger? cs).map .number

/-- The characters of values: those of symbols, the quote and the minus sign. -/
def isFieldChar (c : Char) : Bool := isSymbolChar c || c == '"' || c == '-'

/-- What is printed for an integer are digits, behind a minus sign if it is negative. -/
theorem mem_signed {i : Int} {c : Char} (h : c ∈ (Text.signed i).toList) :
    c = '-' ∨ Decimal.isDecimalDigit c = true := by
  obtain ⟨n, rfl⟩ | ⟨n, hn, rfl⟩ := Decimal.eq_natCast_or_neg i
  · rw [Decimal.signed_natCast] at h
    exact .inr ((Decimal.numeral_decimal n).digits c h)
  · rw [Decimal.toList_signed_neg hn] at h
    exact (List.mem_cons.1 h).imp_right ((Decimal.numeral_decimal n).digits c)

theorem head?_signed_ne {c : Char} (hminus : c ≠ '-') (hdigit : Decimal.isDecimalDigit c = false)
    (i : Int) : (Text.signed i).toList.head? ≠ some c := by
  intro h
  rcases mem_signed (List.mem_of_head? h) with hc | hc
  · exact hminus hc
  · rw [hdigit] at hc
    cases hc

theorem isFieldChar_of_mem {f : Field} (h : f.Plain) {c : Char} (hc : c ∈ f.text.toList) :
    isFieldChar c = true := by
  cases f with
  | word w =>
    rw [Field.text, Text.toList_quoted, List.mem_cons, List.mem_append, List.mem_singleton] at hc
    rcases hc with rfl | hc | rfl
    · rfl
    · simp [isFieldChar, List.all_eq_true.1 h c hc]
    · rfl
  | number n =>
    rcases mem_signed hc with rfl | hdigit
    · rfl
    · obtain ⟨d, hd, rfl⟩ := Decimal.isDecimalDigit_iff.1 hdigit
      have hall : ∀ d < 10, isFieldChar (Text.digit d) = true := by decide
      exact hall d hd
  | flag b =>
    have hall : ∀ b, (Field.flag b).text.toList.all isFieldChar = true := by decide
    exact List.all_eq_true.1 (hall b) c hc

/-- A value is read from the text that it is written as, and from no other. -/
theorem Field.ofText?_eq_some_iff {f : Field} :
    ofText? cs = some f ↔ cs = f.text.toList ∧ f.Plain := by
  constructor
  · intro h
    unfold ofText? at h
    split at h
    · obtain ⟨w, hw, rfl⟩ := Option.map_eq_some_iff.1 h
      exact Text.readSymbol?_eq_some_iff.1 hw
    · split at h
      · next htrue =>
        obtain rfl := Option.some.inj h
        exact ⟨htrue, trivial⟩
      · split at h
        · next hfalse =>
          obtain rfl := Option.some.inj h
          exact ⟨hfalse, trivial⟩
        · obtain ⟨n, hn, rfl⟩ := Option.map_eq_some_iff.1 h
          exact ⟨Decimal.readInteger?_eq_some_iff.1 hn, trivial⟩
  · rintro ⟨rfl, hf⟩
    cases f with
    | word w =>
      rw [ofText?, if_pos (by rw [text, Text.toList_quoted, List.head?_cons])]
      exact Option.map_eq_some_iff.2 ⟨w, Text.readSymbol?_eq_some_iff.2 ⟨rfl, hf⟩, rfl⟩
    | flag b => cases b <;> decide
    | number n =>
      -- A number starts with neither a quote nor a letter.
      have hquote := head?_signed_ne (c := '"') (by decide) (by decide) n
      have htrue : (Text.signed n).toList ≠ "true".toList := fun h =>
        head?_signed_ne (c := 't') (by decide) (by decide) n (by rw [h]; decide)
      have hfalse : (Text.signed n).toList ≠ "false".toList := fun h =>
        head?_signed_ne (c := 'f') (by decide) (by decide) n (by rw [h]; decide)
      rw [text, ofText?, if_neg hquote, if_neg htrue, if_neg hfalse]
      exact Option.map_eq_some_iff.2 ⟨n, Decimal.readInteger?_eq_some_iff.2 rfl, rfl⟩

/-! ## Members -/

/-- A value with its name. -/
abbrev Member := String × Field

namespace Member

variable {m : Member}

/-- The text of a member. -/
def text (m : Member) : String := "\"" ++ m.1 ++ "\":" ++ m.2.text

/-- A name and a value. -/
def ofText? (cs : List Char) : Option Member :=
  match Text.splitAt ':' cs with
  | [name, value] => do some (← readSymbol? name, ← Field.ofText? value)
  | _ => none

/-- The name is a symbol, and so is the value if it is a word. -/
def Plain (m : Member) : Prop := IsSymbol m.1 ∧ m.2.Plain

theorem toList_text (m : Member) :
    m.text.toList = [':'].intercalate [("\"" ++ m.1 ++ "\"").toList, m.2.text.toList] := by
  simp [text]

/-- The characters on both sides of the colon are those of values. -/
theorem Plain.parts (h : m.Plain) :
    ∀ p ∈ [("\"" ++ m.1 ++ "\"").toList, m.2.text.toList], ∀ c ∈ p, isFieldChar c = true := by
  have hname : (Field.word m.1).Plain := h.1
  exact List.forall_mem_cons.2 ⟨fun _ hc => isFieldChar_of_mem hname hc,
    List.forall_mem_singleton.2 fun _ hc => isFieldChar_of_mem h.2 hc⟩

theorem Plain.mem_text (h : m.Plain) {c : Char} (hc : c ∈ m.text.toList) :
    c = ':' ∨ isFieldChar c = true := by
  rw [toList_text] at hc
  exact (Text.mem_intercalate hc).imp_right fun ⟨p, hp, hc⟩ => h.parts p hp c hc

/-- A member is read from the text that it is written as, and from no other. -/
theorem ofText?_eq_some_iff : ofText? cs = some m ↔ cs = m.text.toList ∧ m.Plain := by
  rw [toList_text]
  constructor
  · intro h
    unfold ofText? at h
    split at h
    · next name value hsplit =>
      obtain ⟨w, hw, h⟩ := Option.bind_eq_some_iff.1 h
      obtain ⟨v, hv, h⟩ := Option.bind_eq_some_iff.1 h
      obtain rfl := Option.some.inj h
      obtain ⟨rfl, hname⟩ := Text.readSymbol?_eq_some_iff.1 hw
      obtain ⟨rfl, hvalue⟩ := Field.ofText?_eq_some_iff.1 hv
      exact ⟨(Text.splitAt_eq_iff.1 hsplit).1, hname, hvalue⟩
    · cases h
  · rintro ⟨rfl, h⟩
    rw [ofText?, Text.splitAt_intercalate (List.cons_ne_nil _ _) fun p hp hc =>
      absurd (h.parts p hp ':' hc) (by decide)]
    exact Option.bind_eq_some_iff.2 ⟨m.1, Text.readSymbol?_eq_some_iff.2 ⟨rfl, h.1⟩,
      Option.bind_eq_some_iff.2 ⟨m.2, Field.ofText?_eq_some_iff.2 ⟨rfl, h.2⟩, rfl⟩⟩

end Member

/-! ## Objects -/

/-- Values with their names, in order. -/
abbrev Object := List Member

namespace Object

variable {ms : Object}

/-- The text of an object. -/
def text (ms : Object) : String := "\x7b" ++ ",".intercalate (ms.map Member.text) ++ "\x7d"

/-- One or more members. -/
def ofText? (cs : List Char) : Option Object :=
  (Text.between? '\x7b' '\x7d' cs).bind fun body => (Text.splitAt ',' body).mapM Member.ofText?

/-- There are members, and all of them are plain. -/
def Plain (ms : Object) : Prop := ms ≠ [] ∧ ∀ m ∈ ms, m.Plain

theorem toList_text (ms : Object) : ms.text.toList =
    '\x7b' :: ([','].intercalate (ms.map fun m => m.text.toList) ++ ['\x7d']) := by
  simp [text, Function.comp_def]

/-- An object is read from the text that it is written as, and from no other. -/
theorem ofText?_eq_some_iff : ofText? cs = some ms ↔ cs = ms.text.toList ∧ ms.Plain := by
  have hmembers : ∀ body, (Text.splitAt ',' body).mapM Member.ofText? = some ms ↔
      Text.splitAt ',' body = ms.map (fun m => m.text.toList) ∧ ∀ m ∈ ms, m.Plain := fun _ =>
    Text.mapM_eq_some_iff fun _ _ => Member.ofText?_eq_some_iff
  rw [toList_text, ← Text.between?_eq_some_iff, ofText?]
  constructor
  · intro h
    obtain ⟨body, hbody, h⟩ := Option.bind_eq_some_iff.1 h
    obtain ⟨hsplit, hplain⟩ := (hmembers body).1 h
    obtain ⟨rfl, hne, -⟩ := Text.splitAt_eq_iff.1 hsplit
    exact ⟨hbody, fun hnil => hne (by rw [hnil, List.map_nil]), hplain⟩
  · rintro ⟨hbody, hne, hplain⟩
    refine Option.bind_eq_some_iff.2 ⟨_, hbody, (hmembers _).2 ⟨?_, hplain⟩⟩
    refine Text.splitAt_intercalate (fun hnil => hne (List.map_eq_nil_iff.1 hnil)) ?_
    intro p hp hc
    obtain ⟨m, hm, rfl⟩ := List.mem_map.1 hp
    exact absurd ((hplain m hm).mem_text hc) (by decide)

/-- The characters of objects: those of values, and the marks between and around members. -/
def isObjectChar (c : Char) : Bool := isFieldChar c || [':', ',', '\x7b', '\x7d'].contains c

theorem isObjectChar_of_mem (h : ms.Plain) {c : Char} (hc : c ∈ ms.text.toList) :
    isObjectChar c = true := by
  rw [toList_text, List.mem_cons, List.mem_append, List.mem_singleton] at hc
  rcases hc with rfl | hc | rfl
  · rfl
  · rcases Text.mem_intercalate hc with rfl | ⟨p, hp, hc⟩
    · rfl
    · obtain ⟨m, hm, rfl⟩ := List.mem_map.1 hp
      rcases (h.2 m hm).mem_text hc with rfl | hfield
      · rfl
      · simp [isObjectChar, hfield]
  · rfl

end Object

end SyntheticInput
