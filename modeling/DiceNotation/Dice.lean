import DiceNotation.Digits

/-!
# Dice

A group of identical dice with at most one modifier. The roll carries the text it was written as,
sign included; the building functions extend that text together with the fields.
-/

namespace DiceNotation

/-- What is done with the draws of a dice term. -/
inductive Modifier where
  /-- Draw again and add on the highest face, at most `limit` times a die; 0 is no limit. -/
  | explode (limit : UInt64)
  /-- Count only the highest draws. -/
  | keepHigh (keep : UInt64)
  /-- Count only the lowest draws. -/
  | keepLow (keep : UInt64)
  deriving Repr, DecidableEq

/-- The text of a modifier; an unlimited explosion is written without its 0. -/
def Modifier.text : Modifier → String
  | .explode limit => if limit = 0 then "!" else "!" ++ decimal limit.toNat
  | .keepHigh keep => "kh" ++ decimal keep.toNat
  | .keepLow keep => "kl" ++ decimal keep.toNat

structure DiceRoll where
  raw : String
  negative : Bool
  count : UInt64
  faces : UInt64
  modifier : Option Modifier
  deriving Repr, DecidableEq

namespace DiceRoll

/-- `count` dice of `faces` sides, added and without a modifier. -/
def plain (count faces : UInt64) : DiceRoll where
  raw := decimal count.toNat ++ "d" ++ decimal faces.toNat
  negative := false
  count := count
  faces := faces
  modifier := none

/-- The roll with another modifier, whose text joins the text so far. -/
def withModifier (d : DiceRoll) (m : Modifier) : DiceRoll :=
  { d with raw := d.raw ++ m.text, modifier := some m }

/-- The roll subtracted from the total; one that is subtracted already stays as it is. -/
def subtracted (d : DiceRoll) : DiceRoll :=
  if d.negative then d else { d with raw := "-" ++ d.raw, negative := true }

@[simp] theorem subtracted_subtracted (d : DiceRoll) : d.subtracted.subtracted = d.subtracted := by
  by_cases h : d.negative <;> simp [subtracted, h]

end DiceRoll

end DiceNotation
