import SyntheticInput.Random.ChaCha

/-!
# Streams of random numbers

A source fixes an endless sequence of 64-bit numbers; a stream is a source and the count of numbers
taken from it. Everything drawn is therefore a function of the source and the place in it.

* `Source.draw`: the `n`-th number of a source.
* `Draws.next`: takes one number.
* `Draws.jitter`: takes a number below three.
* `strengthOf`: a number from one half to one.
-/

namespace SyntheticInput

/-- Where random numbers come from. -/
inductive Source where
  /-- The numbers that a seed gives. -/
  | seeded (seed : UInt64)
  /-- A fixed list, over and over. -/
  | cycle (numbers : List UInt64)
  deriving Repr, DecidableEq

/-- The `n`-th number of a source. -/
def Source.draw : Source → Nat → UInt64
  | seeded seed, n => Random.seededDraw seed n
  | cycle numbers, n => (numbers[n % numbers.length]?).getD 0

/-- A source and how many of its numbers are used up. -/
structure Draws where
  source : Source
  used : Nat := 0
  deriving Repr, DecidableEq

namespace Draws

/-- The stream of a seed, from its start. -/
def seeded (seed : UInt64) : Draws := { source := .seeded seed }

/-- The number that is drawn next. -/
def head (d : Draws) : UInt64 := d.source.draw d.used

/-- The stream without its next `n` numbers. -/
def drop (n : Nat) (d : Draws) : Draws := { d with used := d.used + n }

/-- Takes one number. -/
def next (d : Draws) : UInt64 × Draws := (d.head, d.drop 1)

/-- The largest low half for which a multiple of three below `3 · 2 ^ 64` counts. -/
def jitterZone : Nat := 0xBFFFFFFFFFFFFFFF

/-- Takes a number below three: the high half of three times a draw, where a draw with a low half
above the zone is passed over. Without fuel it is zero and nothing is taken. -/
def jitterWithin : Nat → Draws → UInt64 × Draws
  | 0, d => (0, d)
  | fuel + 1, d =>
    let product := 3 * d.head.toNat
    if product % UInt64.size ≤ jitterZone then (.ofNat (product / UInt64.size), d.drop 1)
    else jitterWithin fuel (d.drop 1)

/-- Takes a number below three. One draw in four is passed over, so a thousand never run out. -/
def jitter (d : Draws) : UInt64 × Draws := jitterWithin 1000 d

theorem jitterWithin_lt (fuel : Nat) (d : Draws) : (jitterWithin fuel d).1 < 3 := by
  induction fuel generalizing d with
  | zero => simp [jitterWithin]
  | succ fuel ih =>
    simp only [jitterWithin]
    by_cases h : 3 * d.head.toNat % UInt64.size ≤ jitterZone
    · rw [if_pos h, UInt64.lt_iff_toNat_lt, UInt64.toNat_ofNat']
      have hw := d.head.toNat_lt
      have hs : UInt64.size = 18446744073709551616 := rfl
      have hq : 3 * d.head.toNat / UInt64.size < 3 := Nat.div_lt_of_lt_mul (by omega)
      exact Nat.lt_of_le_of_lt (Nat.mod_le _ _) hq
    · rw [if_neg h]
      exact ih _

/-- What is taken as jitter is below three. -/
theorem jitter_lt (d : Draws) : d.jitter.1 < 3 := jitterWithin_lt 1000 d

end Draws

/-- A number from one half to one: the upper 52 bits of a draw, spread over the interval so that
both ends are met. -/
def strengthOf (w : UInt64) : Float :=
  (w >>> 12).toFloat / 4503599627370496 * Float.ofBits 0x3FE0000000000001 + 0.5

end SyntheticInput
