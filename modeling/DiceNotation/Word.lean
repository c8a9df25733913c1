/-!
# Words

The 64-bit integers that fields hold: which numbers fit, and sums that may wrap around.
-/

namespace DiceNotation

/-- How many 64-bit words there are: 2^64. -/
def wordCount : Nat := 0x10000000000000000

/-- How many of them are the words of natural numbers below the sign bit: 2^63. -/
def halfWordCount : Nat := 0x8000000000000000

/-- The unsigned word of an integer, if there is one. -/
def toUInt64? (n : Int) : Option UInt64 :=
  if 0 ≤ n ∧ n < wordCount then some (UInt64.ofNat n.toNat) else none

/-- The signed word of an integer, if there is one. -/
def toInt64? (n : Int) : Option Int64 :=
  if -halfWordCount ≤ n ∧ n < halfWordCount then some (Int64.ofInt n) else none

/-- The sum of unsigned words, modulo 2^64. -/
def sum (values : List UInt64) : UInt64 := values.foldr (· + ·) 0

end DiceNotation
