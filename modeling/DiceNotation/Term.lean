import DiceNotation.Dice
import DiceNotation.Word

/-!
# Terms

One signed part of a batch: a dice roll or a constant.
-/

namespace DiceNotation

/-- A flat amount added to or subtracted from a roll. -/
structure Constant where
  raw : String
  negative : Bool
  value : UInt64
  deriving Repr, DecidableEq

namespace Constant

/-- The constant of a value and a sign, with its shortest text. -/
def ofValue (value : UInt64) (negative : Bool) : Constant where
  raw := (if negative then "-" else "+") ++ decimal value.toNat
  negative := negative
  value := value

/-- The signed amount, if the value fits a signed 64-bit integer; -2^63 has no value of its own. -/
def amount? (c : Constant) : Option Int64 :=
  if c.value.toNat < halfWordCount then
    some (if c.negative then -c.value.toInt64 else c.value.toInt64)
  else none

end Constant

/-- One signed part of a batch. -/
inductive Term where
  | dice (roll : DiceRoll)
  | constant (constant : Constant)
  deriving Repr, DecidableEq

namespace Term

/-- The text a term was written as, sign included. -/
def raw : Term → String
  | .dice d => d.raw
  | .constant c => c.raw

def dice? : Term → Option DiceRoll
  | .dice d => some d
  | .constant _ => none

end Term

end DiceNotation
