/-!
# The ChaCha block function with twelve rounds

The state is a square of 32-bit words, kept as four rows. A round mixes the columns; between two
rounds the rows are turned so that the diagonals stand as columns.

* `Row`: four words, with the word-wise operations.
* `block`: the sixteen output words for a key and a block number.
* `keyOfSeed`: the key that a 64-bit seed is spread into.
* `seededDraw`: the 64-bit numbers that a seed gives, in order.
-/

namespace SyntheticInput.Random

/-- Four words of the state. -/
structure Row where
  w0 : UInt32
  w1 : UInt32
  w2 : UInt32
  w3 : UInt32

namespace Row

/-- Word-wise sum. -/
def add (a b : Row) : Row := ⟨a.w0 + b.w0, a.w1 + b.w1, a.w2 + b.w2, a.w3 + b.w3⟩

/-- A word turned left by `n` bits. -/
def turnWord (n w : UInt32) : UInt32 := w <<< n ||| w >>> (32 - n)

/-- Word-wise exclusive or, each word turned left by `n` bits. -/
def xorTurn (n : UInt32) (a b : Row) : Row :=
  ⟨turnWord n (a.w0 ^^^ b.w0), turnWord n (a.w1 ^^^ b.w1), turnWord n (a.w2 ^^^ b.w2),
    turnWord n (a.w3 ^^^ b.w3)⟩

/-- The row turned by one place. -/
def turn (r : Row) : Row := ⟨r.w1, r.w2, r.w3, r.w0⟩

/-- The words from left to right. -/
def toList (r : Row) : List UInt32 := [r.w0, r.w1, r.w2, r.w3]

end Row

/-- Four rows. -/
structure Square where
  a : Row
  b : Row
  c : Row
  d : Row

namespace Square

/-- Mixes the four columns. -/
def mixColumns (s : Square) : Square :=
  let a := s.a.add s.b
  let d := Row.xorTurn 16 s.d a
  let c := s.c.add d
  let b := Row.xorTurn 12 s.b c
  let a := a.add b
  let d := Row.xorTurn 8 d a
  let c := c.add d
  let b := Row.xorTurn 7 b c
  ⟨a, b, c, d⟩

/-- Turns the rows so that the diagonals become columns. -/
def skew (s : Square) : Square := ⟨s.a, s.b.turn, s.c.turn.turn, s.d.turn.turn.turn⟩

/-- Turns the rows back. -/
def unskew (s : Square) : Square := ⟨s.a, s.b.turn.turn.turn, s.c.turn.turn, s.d.turn⟩

/-- A round on the columns and a round on the diagonals. -/
def doubleRound (s : Square) : Square := s.mixColumns.skew.mixColumns.unskew

/-- Row-wise sum. -/
def add (s t : Square) : Square := ⟨s.a.add t.a, s.b.add t.b, s.c.add t.c, s.d.add t.d⟩

/-- The sixteen words, row by row. -/
def toList (s : Square) : List UInt32 := s.a.toList ++ s.b.toList ++ s.c.toList ++ s.d.toList

end Square

/-- A key of eight words. -/
structure Key where
  low : Row
  high : Row

/-- The state before the first round: the constant, the key, the block number and no nonce. -/
def initial (k : Key) (number : UInt64) : Square :=
  ⟨⟨0x61707865, 0x3320646E, 0x79622D32, 0x6B206574⟩, k.low, k.high,
    ⟨number.toUInt32, (number >>> 32).toUInt32, 0, 0⟩⟩

/-- The output words of block `number`. -/
def block (k : Key) (number : UInt64) : List UInt32 :=
  let s := initial k number
  let mixed := (List.range 6).foldl (fun t _ => t.doubleRound) s
  (mixed.add s).toList

/-- One step of the generator that spreads a seed. -/
def spread (s : UInt64) : UInt64 := s * 6364136223846793005 + 11634580027462260723

/-- The word drawn from a state of that generator. -/
def spreadWord (s : UInt64) : UInt32 :=
  let x := (((s >>> 18) ^^^ s) >>> 27).toUInt32
  let n := (s >>> 59).toUInt32
  x >>> n ||| x <<< ((32 - n) % 32)

/-- The key that a seed is spread into. -/
def keyOfSeed (seed : UInt64) : Key :=
  let s0 := spread seed
  let s1 := spread s0
  let s2 := spread s1
  let s3 := spread s2
  let s4 := spread s3
  let s5 := spread s4
  let s6 := spread s5
  let s7 := spread s6
  ⟨⟨spreadWord s0, spreadWord s1, spreadWord s2, spreadWord s3⟩,
    ⟨spreadWord s4, spreadWord s5, spreadWord s6, spreadWord s7⟩⟩

/-- The `n`-th 64-bit number that a seed gives: two successive output words, the low half first. -/
def seededDraw (seed : UInt64) (n : Nat) : UInt64 :=
  let ws := block (keyOfSeed seed) (.ofNat (n / 8))
  let i := n % 8 * 2
  ((ws[i + 1]?).getD 0).toUInt64 <<< 32 ||| ((ws[i]?).getD 0).toUInt64

end SyntheticInput.Random
