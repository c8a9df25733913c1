/-!
# Outcomes

The draw of a single die, marked when it is the highest or the lowest face. Outcomes are compared
by their value; the mark follows from the value once the die is known.
-/

namespace DiceNotation

/-- Whether a draw is critical. -/
inductive Critic where
  | max
  | min
  | plain
  deriving Repr, DecidableEq

/-- The draw of one die. -/
structure Outcome where
  value : UInt64
  critic : Critic
  deriving Repr

namespace Outcome

/-- The outcome of drawing `value` on a die of `faces` sides: a one on a one sided die is its
highest face. -/
def ofDraw (value faces : UInt64) : Outcome where
  value := value
  critic := if value = faces then .max else if value = 1 then .min else .plain

instance : BEq Outcome := ⟨fun a b => a.value == b.value⟩

instance : Ord Outcome := ⟨fun a b => compare a.value b.value⟩

/-- Outcomes in ascending order; those of equal value keep their order. -/
def sort (os : List Outcome) : List Outcome := os.mergeSort fun a b => a.value ≤ b.value

@[simp] theorem value_ofDraw (value faces : UInt64) : (ofDraw value faces).value = value := rfl

theorem map_value_ofDraw (values : List UInt64) (faces : UInt64) :
    (values.map (ofDraw · faces)).map value = values := by
  simp [Function.comp_def]

@[simp] theorem beq_iff (a b : Outcome) : (a == b) = true ↔ a.value = b.value := by
  simp [BEq.beq]

end Outcome

end DiceNotation
