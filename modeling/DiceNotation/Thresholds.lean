/-!
# Thresholds

Optional bounds that a grand total is judged by. Without a bound there is no verdict.
-/

namespace DiceNotation

/-- Whether a grand total lies within the thresholds. -/
inductive Verdict where
  | success
  | failure
  deriving Repr, DecidableEq

def Verdict.text : Verdict → String
  | .success => "success"
  | .failure => "failure"

/-- The lowest and the highest grand total that counts as a success. -/
structure Thresholds where
  min : Option Int64
  max : Option Int64
  deriving Repr, DecidableEq

namespace Thresholds

def unbounded : Thresholds := ⟨.none, .none⟩

def isEmpty (t : Thresholds) : Bool := t.min.isNone && t.max.isNone

/-- A total keeps to both bounds, as far as they are set. -/
def admits (t : Thresholds) (total : Int64) : Bool :=
  t.min.all (· ≤ total) && t.max.all (total ≤ ·)

def verdict (t : Thresholds) (total : Int64) : Option Verdict :=
  if t.isEmpty then .none
  else some (if t.admits total then .success else .failure)

end Thresholds

end DiceNotation
