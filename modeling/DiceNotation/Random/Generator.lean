import DiceNotation.Random.ChaCha
import DiceNotation.Source
import DiceNotation.Word

/-!
# Seeded generator

A seed is expanded to a key, and the key's stream is read as 64-bit numbers. A die is thrown by
scaling such a number to the faces: numbers from an incomplete last stretch are passed over, which
makes all faces equally likely.
-/

namespace DiceNotation

/-- A key and what has been read of its stream. -/
structure Generator where
  key : ChaCha.Key
  /-- The counter of the next block. -/
  counter : UInt64
  /-- The numbers left of the block before. -/
  ready : List UInt64
  deriving Repr, DecidableEq

namespace Generator

/-- The next state of the seed expansion, a linear congruential step. -/
def expandSeed (s : UInt64) : UInt64 := s * 6364136223846793005 + 11634580027462260723

/-- The key word of an expansion state: its high bits, turned right by an amount that the highest
bits give. -/
def keyWord (s : UInt64) : UInt32 :=
  let x := (((s >>> 18) ^^^ s) >>> 27).toUInt32
  let n := (s >>> 59).toUInt32
  (x >>> n) ||| (x <<< (32 - n))

def ofSeed (seed : UInt64) : Generator :=
  let s0 := expandSeed seed
  let s1 := expandSeed s0
  let s2 := expandSeed s1
  let s3 := expandSeed s2
  let s4 := expandSeed s3
  let s5 := expandSeed s4
  let s6 := expandSeed s5
  let s7 := expandSeed s6
  { key :=
      ⟨⟨keyWord s0, keyWord s1, keyWord s2, keyWord s3⟩,
        ⟨keyWord s4, keyWord s5, keyWord s6, keyWord s7⟩⟩
    counter := 0
    ready := [] }

def next (g : Generator) : UInt64 × Generator :=
  match g.ready with
  | v :: vs => (v, { g with ready := vs })
  | [] =>
    let numbers := ChaCha.pairs (g.key.block g.counter).toList
    (numbers.headD 0, { g with counter := g.counter + 1, ready := numbers.tail })

end Generator

namespace Uniform

/-- How many of the highest bits of a positive number are zero. -/
def leadingZeros (faces : UInt64) : UInt64 := 63 - faces.log2

/-- The largest low half a scaled number may have: all stretches of this size are complete. -/
def zone (faces : UInt64) : UInt64 := (faces <<< leadingZeros faces) - 1

/-- A number scaled to the faces is not in the incomplete last stretch. -/
def accepts (faces v : UInt64) : Bool := v.toNat * faces.toNat % wordCount ≤ (zone faces).toNat

/-- The face of a number: it is scaled to the faces, and the fraction is dropped. -/
def face (faces v : UInt64) : UInt64 := UInt64.ofNat (1 + v.toNat * faces.toNat / wordCount)

/-- Takes numbers until one is accepted, at most `fuel` ones before the last. -/
def pick {σ : Type} (next : σ → UInt64 × σ) (faces : UInt64) : (fuel : Nat) → σ → UInt64 × σ
  | 0, state =>
    let (v, state) := next state
    (face faces v, state)
  | fuel + 1, state =>
    let (v, state) := next state
    if accepts faces v then (face faces v, state) else pick next faces fuel state

end Uniform

namespace Generator

/-- After so many numbers the stream repeats: 2^64 blocks of eight numbers. -/
def period : Nat := 8 * wordCount

/-- The source that throws dice with a generator; there is nothing to pick from a die without
faces. Within a period it meets every number that its stream holds, so bounding the search by one
loses nothing. -/
def source : Source Generator where
  draw faces := Uniform.pick next faces period
  offers faces _ := faces ≠ 0

end Generator

end DiceNotation
