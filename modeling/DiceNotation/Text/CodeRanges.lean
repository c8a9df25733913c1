/-!
# Ranges of code points

A character property is a list of ranges in ascending order, each with its first and last code
point.
-/

namespace DiceNotation

/-- A set of code points as ranges in ascending order. -/
abbrev CodeRanges := List (Nat × Nat)

/-- The character lies in one of the ranges; those beyond it need not be looked at. -/
def CodeRanges.contains : CodeRanges → Char → Bool
  | [], _ => false
  | (first, last) :: rs, c =>
    first ≤ c.toNat && (c.toNat ≤ last || CodeRanges.contains rs c)

end DiceNotation
