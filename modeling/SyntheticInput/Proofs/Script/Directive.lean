import SyntheticInput.Proofs.Decimal.Floating
import SyntheticInput.Proofs.Script.Indexed
import SyntheticInput.Proofs.Text.Caseless

/-!
# Directives

A directive says how many arguments it takes and what each of them has to be. A line with one is
read from the left; the count comes first, and the first argument that does not fit ends it.

* `ArgumentKind.Fits`: the texts of the arguments, given by the grammars of numbers.
* `Scan`: how reading from the left ends; `Scan.argument` for one argument, and from it
  `scan_ofDirective` for a directive.
* `ReadsDirective`: everything that a line with a directive asks for.
* `Prints`: the instructions as they are written.
* `directives_exact`: lines with directives are read exactly, and reading undoes writing.
-/

namespace SyntheticInput

open Decimal (readInt32? readFloat? readUInt64?)

/-! ## What a directive takes -/

/-- What an argument of a directive stands for. -/
inductive ArgumentKind where
  | coordinate | speed | pause
  deriving DecidableEq

/-- The token is an integer in the range of its type, or a floating-point number. -/
def ArgumentKind.Fits (token : String) : ArgumentKind → Prop
  | coordinate => ∃ x : Int32, Decimal.Signed token.toList x.toInt
  | speed => Decimal.Floating token.toList
  | pause => ∃ ms : UInt64, Decimal.Unsigned token.toList ms.toNat

namespace Directive

/-- What the arguments stand for, from the left. -/
def kinds : Directive → List ArgumentKind
  | move => [.coordinate, .coordinate, .speed]
  | setPosition => [.coordinate, .coordinate]
  | sleep => [.pause]

/-- The number of arguments is in range. -/
def Takes (d : Directive) (given : Nat) : Prop := d.leastArgs ≤ given ∧ given ≤ d.mostArgs

/-- The instruction that a directive and its arguments stand for. -/
inductive Means : Directive → List String → Instruction → Prop
  | move {sx sy : String} {x y : Int32} (hx : Decimal.Signed sx.toList x.toInt)
      (hy : Decimal.Signed sy.toList y.toInt) : Means move [sx, sy] (.move x y none)
  | moveAt {sx sy sv : String} {x y : Int32} {v : Float} (hx : Decimal.Signed sx.toList x.toInt)
      (hy : Decimal.Signed sy.toList y.toInt) (hv : readFloat? sv = some v) :
      Means move [sx, sy, sv] (.move x y (some v))
  | setPosition {sx sy : String} {x y : Int32} (hx : Decimal.Signed sx.toList x.toInt)
      (hy : Decimal.Signed sy.toList y.toInt) : Means setPosition [sx, sy] (.setPosition x y)
  | sleep {s : String} {ms : UInt64} (h : Decimal.Unsigned s.toList ms.toNat) :
      Means sleep [s] (.sleep ms)

end Directive

/-- The token is the first from the left that does not fit. -/
inductive FirstUnfit : List (String × ArgumentKind) → String → Prop
  | here {token : String} {kind : ArgumentKind} {rest : List (String × ArgumentKind)}
      (h : ¬ kind.Fits token) : FirstUnfit ((token, kind) :: rest) token
  | later {token other : String} {kind : ArgumentKind} {rest : List (String × ArgumentKind)}
      (h : kind.Fits token) (hr : FirstUnfit rest other) : FirstUnfit ((token, kind) :: rest) other

/-- What a line with the directive `d` and the arguments `args` asks for. -/
structure ReadsDirective (d : Directive) (args : List String)
    (asked : Except ScriptError (Option Instruction)) : Prop where
  /-- The line is valid just when the count is in range and every argument fits. -/
  ok_iff : (∃ i, asked = .ok i) ↔
    d.Takes args.length ∧ ∀ p ∈ args.zip d.kinds, p.2.Fits p.1
  /-- A valid line asks for what it stands for. -/
  means : ∀ i, asked = .ok i → ∃ j, i = some j ∧ d.Means args j
  /-- It is no key command. -/
  not_key : ∀ command, asked ≠ .ok (some (.key command))
  /-- A wrong count is reported whatever the arguments are. -/
  wrongCount : ¬ d.Takes args.length → asked = .error (.invalid d (.wrongCount args.length))
  /-- If the count is in range, the first argument that does not fit is reported. -/
  unreadable : d.Takes args.length → ∀ token, FirstUnfit (args.zip d.kinds) token →
    asked = .error (.invalid d (.unreadable token))
  /-- Every error names the directive. -/
  invalid : ∀ e, asked = .error e → ∃ fault, e = .invalid d fault

/-- An instruction as it is written: its directive and the arguments in decimal. -/
inductive Prints : Instruction → Directive → List String → Prop
  | move (x y : Int32) : Prints (.move x y none) .move [Text.signed x.toInt, Text.signed y.toInt]
  | setPosition (x y : Int32) :
      Prints (.setPosition x y) .setPosition [Text.signed x.toInt, Text.signed y.toInt]
  | sleep (ms : UInt64) : Prints (.sleep ms) .sleep [Text.decimal ms.toNat]

/-! ## Reading from the left -/

variable {d : Directive} {args : List String} {asks : Instruction → Prop} {token : String}

theorem FirstUnfit.not_all {l : List (String × ArgumentKind)} (h : FirstUnfit l token) :
    ¬ ∀ p ∈ l, p.2.Fits p.1 := by
  induction h with
  | here h => exact fun hall => h (hall _ List.mem_cons_self)
  | later h hr ih => exact fun hall => ih fun p hp => hall p (List.mem_cons_of_mem _ hp)

theorem FirstUnfit.unique {l : List (String × ArgumentKind)} {other : String}
    (h : FirstUnfit l token) (h' : FirstUnfit l other) : token = other := by
  induction h with
  | here h =>
    cases h' with
    | here => rfl
    | later hfit => exact absurd hfit h
  | later h hr ih =>
    cases h' with
    | here hunfit => exact absurd h hunfit
    | later _ hr' => exact ih hr'

/-- The ways in which reading arguments ends: all fit and make an instruction, or the first that
does not fit is the error. -/
inductive Scan (d : Directive) (asks : Instruction → Prop) :
    List (String × ArgumentKind) → Except ScriptError Instruction → Prop
  | read {l : List (String × ArgumentKind)} {i : Instruction} (hfit : ∀ p ∈ l, p.2.Fits p.1)
      (hi : asks i) : Scan d asks l (.ok i)
  | unreadable {l : List (String × ArgumentKind)} {token : String} (h : FirstUnfit l token) :
      Scan d asks l (.error (.invalid d (.unreadable token)))

theorem Scan.done {i : Instruction} (hi : asks i) : Scan d asks [] (pure i) :=
  .read (by simp) hi

/-- One argument more in front. -/
theorem Scan.argument {α : Type} {read : String → Option α} {kind : ArgumentKind}
    {rest : List (String × ArgumentKind)} {k : α → Except ScriptError Instruction}
    (hkind : kind.Fits token ↔ (read token).isSome = true)
    (h : ∀ v, read token = some v → Scan d asks rest (k v)) :
    Scan d asks ((token, kind) :: rest) (Instruction.argument d read token >>= k) := by
  unfold Instruction.argument
  cases hr : read token with
  | none =>
    rw [hr] at hkind
    exact .unreadable (.here fun hfit => nomatch hkind.1 hfit)
  | some v =>
    have hfit : kind.Fits token := hkind.2 (by rw [hr]; rfl)
    change Scan d asks _ (k v)
    generalize hk : k v = r
    cases hk ▸ h v hr with
    | read hall hi => exact .read (List.forall_mem_cons.2 ⟨hfit, hall⟩) hi
    | unreadable hu => exact .unreadable (.later hfit hu)

theorem ArgumentKind.fits_coordinate :
    ArgumentKind.coordinate.Fits token ↔ (readInt32? token).isSome = true := by
  simp only [Option.isSome_iff_exists, Decimal.readInt32?_eq_some_iff]
  rfl

theorem ArgumentKind.fits_speed :
    ArgumentKind.speed.Fits token ↔ (readFloat? token).isSome = true :=
  Decimal.readFloat?_isSome_iff.symm

theorem ArgumentKind.fits_pause :
    ArgumentKind.pause.Fits token ↔ (readUInt64? token).isSome = true := by
  simp only [Option.isSome_iff_exists, Decimal.readUInt64?_eq_some_iff]
  rfl

namespace Instruction

open ArgumentKind Decimal

/-- A wrong count is found before any argument is read. -/
theorem ofDirective_of_not_takes (h : ¬ d.Takes args.length) :
    ofDirective d args = .error (.invalid d (.wrongCount args.length)) := by
  unfold ofDirective
  split
  case h_5 => rfl
  all_goals exact absurd ⟨Nat.le_of_ble_eq_true rfl, Nat.le_of_ble_eq_true rfl⟩ h

/-- A directive reads its arguments from the left. -/
theorem scan_ofDirective (h : d.Takes args.length) :
    Scan d (d.Means args) (args.zip d.kinds) (ofDirective d args) := by
  match d, args with
  | .move, [sx, sy] =>
    exact .argument fits_coordinate fun x hx => .argument fits_coordinate fun y hy =>
      .done (.move (readInt32?_eq_some_iff.1 hx) (readInt32?_eq_some_iff.1 hy))
  | .move, [sx, sy, sv] =>
    exact .argument fits_coordinate fun x hx => .argument fits_coordinate fun y hy =>
      .argument fits_speed fun v hv =>
        .done (.moveAt (readInt32?_eq_some_iff.1 hx) (readInt32?_eq_some_iff.1 hy) hv)
  | .setPosition, [sx, sy] =>
    exact .argument fits_coordinate fun x hx => .argument fits_coordinate fun y hy =>
      .done (.setPosition (readInt32?_eq_some_iff.1 hx) (readInt32?_eq_some_iff.1 hy))
  | .sleep, [s] =>
    exact .argument fits_pause fun ms hms => .done (.sleep (readUInt64?_eq_some_iff.1 hms))
  | .move, [] | .move, [_] | .setPosition, [] | .setPosition, [_] | .sleep, [] =>
    exact absurd h.1 (by simp [Directive.leastArgs])
  | .move, _ :: _ :: _ :: _ :: _ | .setPosition, _ :: _ :: _ :: _ | .sleep, _ :: _ :: _ =>
    exact absurd h.2 (by simp [Directive.mostArgs])

end Instruction

theorem Directive.Means.ne_key {i : Instruction} (h : d.Means args i) (command : String) :
    i ≠ .key command := by
  cases h <;> nofun

/-- A directive with its arguments is read exactly. -/
theorem readsDirective_ofDirective (d : Directive) (args : List String) :
    ReadsDirective d args ((Instruction.ofDirective d args).map some) := by
  by_cases ht : d.Takes args.length
  · have hscan := Instruction.scan_ofDirective ht
    generalize Instruction.ofDirective d args = r at hscan
    cases hscan with
    | @read i hfit hi =>
      constructor
      · exact iff_of_true ⟨some i, rfl⟩ ⟨ht, hfit⟩
      · rintro j ⟨⟩
        exact ⟨i, rfl, hi⟩
      · rintro command ⟨⟩
        exact hi.ne_key command rfl
      · exact fun hnot => absurd ht hnot
      · exact fun _ token hu => absurd hfit hu.not_all
      · nofun
    | unreadable hu =>
      constructor
      · exact iff_of_false nofun fun h => hu.not_all h.2
      · nofun
      · nofun
      · exact fun hnot => absurd ht hnot
      · intro _ token hu'
        rw [hu.unique hu']
        rfl
      · rintro e ⟨⟩
        exact ⟨_, rfl⟩
  · rw [Instruction.ofDirective_of_not_takes ht]
    constructor
    · exact iff_of_false nofun fun h => ht h.1
    · nofun
    · nofun
    · exact fun _ => rfl
    · exact fun h => absurd h ht
    · rintro e ⟨⟩
      exact ⟨_, rfl⟩

/-! ## Lines -/

theorem Directive.ofWord?_of_sameName {word : String} (h : Text.sameName word d.word = true) :
    ofWord? word = some d := by
  unfold ofWord?
  rw [Text.sameName_iff.1 h, d.foldAscii_word]
  cases d <;> decide

/-- A directive in any case is a word. -/
theorem Directive.letters_of_sameName {word : String} (h : Text.sameName word d.word = true) :
    word.toList ≠ [] ∧ ∀ c ∈ word.toList, Text.isBlank c = false := by
  have hd : ∀ c ∈ d.word.toList, Text.isBlank c = false :=
    Text.letters_of_any (by cases d <;> decide)
  rw [Text.sameName_comm] at h
  refine ⟨?_, Text.not_isBlank_of_sameName h hd⟩
  intro hnil
  have hmap := Text.map_toLower_of_sameName h
  rw [hnil] at hmap
  cases d <;> exact absurd hmap (by decide)

theorem Instruction.ofLine?_directive {line word : String}
    (hw : Text.words line.toList = word.toList :: args.map (·.toList))
    (hd : Text.sameName word d.word = true) : ofLine? line = (ofDirective d args).map some := by
  have hhead : word.toList.head? ≠ some '#' := by
    have hfold := congrArg List.head? (Text.map_toLower_of_sameName hd)
    intro hc
    rw [List.head?_map, hc] at hfold
    cases d <;> exact absurd hfold (by decide)
  unfold ofLine?
  simp only [Text.words_trim, hw]
  rw [if_neg hhead, String.ofList_toList, Directive.ofWord?_of_sameName hd]
  simp

/-- The arguments of a printed instruction are read as they are meant. -/
theorem Prints.ofDirective_eq {i : Instruction} (h : Prints i d args) :
    Instruction.ofDirective d args = .ok i := by
  cases h with
  | move x y =>
    simp only [Instruction.ofDirective, Instruction.argument, Decimal.readInt32?_signed]
    rfl
  | setPosition x y =>
    simp only [Instruction.ofDirective, Instruction.argument, Decimal.readInt32?_signed]
    rfl
  | sleep ms =>
    simp only [Instruction.ofDirective, Instruction.argument, Decimal.readUInt64?_decimal]
    rfl

/-- The arguments of a printed instruction are words. -/
theorem Prints.letters {i : Instruction} (h : Prints i d args) :
    ∀ s ∈ args, s.toList ≠ [] ∧ ∀ c ∈ s.toList, Text.isBlank c = false := by
  have hs (i : Int) := (Decimal.signed_signed i).letters
  cases h with
  | move x y => exact List.forall_mem_cons.2 ⟨hs x.toInt, List.forall_mem_singleton.2 (hs y.toInt)⟩
  | setPosition x y =>
    exact List.forall_mem_cons.2 ⟨hs x.toInt, List.forall_mem_singleton.2 (hs y.toInt)⟩
  | sleep ms => exact List.forall_mem_singleton.2 (Decimal.unsigned_decimal ms.toNat).letters

/-- **Directives are read exactly, and reading undoes writing.** No position past the last token is
looked at, on any line. A line that starts with a directive in any ASCII case is read by its count
first, then from the left. An instruction that is written with any blanks around its words, the
directive in any ASCII case, is read back. -/
theorem directives_exact :
    (∀ line, (Instruction.ofLineByIndex? line).run = some (Instruction.ofLine? line)) ∧
    (∀ (d : Directive) (word : String) (args : List String) (line : String),
      Text.words line.toList = word.toList :: args.map (·.toList) →
      Text.sameName word d.word = true → ReadsDirective d args (Instruction.ofLine? line)) ∧
    ∀ (i : Instruction) (d : Directive) (word : String) (args : List String) (line : String),
      Prints i d args → Text.sameName word d.word = true →
      Text.LaidOut (word.toList :: args.map (·.toList)) line.toList →
        Instruction.ofLine? line = .ok (some i) := by
  refine ⟨Instruction.run_ofLineByIndex?, ?_, ?_⟩
  · intro d word args line hw hd
    rw [Instruction.ofLine?_directive hw hd]
    exact readsDirective_ofDirective d args
  · intro i d word args line hi hd hl
    have hword := Directive.letters_of_sameName hd
    have hargs := hi.letters
    have hw := hl.words_eq
      (List.forall_mem_cons.2 ⟨hword.1, List.forall_mem_map.2 fun s hs => (hargs s hs).1⟩)
      (List.forall_mem_cons.2 ⟨hword.2, List.forall_mem_map.2 fun s hs => (hargs s hs).2⟩)
    rw [Instruction.ofLine?_directive hw hd, hi.ofDirective_eq]
    rfl

/-- The ends of the coordinates are read back from among wide blanks, and a pause below zero is
unreadable. -/
theorem directives_exact_ends :
    ReadsDirective .sleep ["-1"] (Instruction.ofLine? "sleep -1") ∧
      Text.LaidOut ["MoVe".toList, "-2147483648".toList, "2147483647".toList]
        " MoVe\t-2147483648\u3000 2147483647\n".toList ∧
      Instruction.ofLine? " MoVe\t-2147483648\u3000 2147483647\n" =
        .ok (some (.move Int32.minValue Int32.maxValue none)) := by
  have hblank {cs : List Char} (h : cs.all Text.isBlank = true) :
      ∀ c ∈ cs, Text.isBlank c = true := List.all_eq_true.1 h
  have hl : Text.LaidOut ["MoVe".toList, "-2147483648".toList, "2147483647".toList]
      ([' '] ++ "MoVe".toList ++ ['\t'] ++
        ([] ++ "-2147483648".toList ++ ['\u3000', ' '] ++
          ([] ++ "2147483647".toList ++ ['\n']))) :=
    .cons (hblank (by decide)) (hblank (by decide)) (by simp)
      (.cons (by simp) (hblank (by decide)) (by simp) (.last (by simp) (hblank (by decide))))
  have hmin : Text.signed Int32.minValue.toInt = "-2147483648" := by decide +kernel
  have hmax : Text.signed Int32.maxValue.toInt = "2147483647" := by decide +kernel
  have hp : Prints (.move Int32.minValue Int32.maxValue none) .move
      ["-2147483648", "2147483647"] := by
    rw [← hmin, ← hmax]
    exact .move _ _
  exact ⟨directives_exact.2.1 .sleep "sleep" ["-1"] "sleep -1" (by decide) (by decide), hl,
    directives_exact.2.2 _ _ "MoVe" _ _ hp (by decide) hl⟩

end SyntheticInput
