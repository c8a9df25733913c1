import DiceNotation.Batch
import DiceNotation.Formula

/-!
# The meaning of a formula

A formula denotes a number of equal batches. Numbers that are left out have a default: one die, no
limit on an explosion, one die kept, one batch. Of several repetition suffixes the last one counts.
-/

namespace DiceNotation

/-- An optional number with its default. -/
def wordOr (default : UInt64) : Option Digits → UInt64
  | none => default
  | some n => n.word

def ModifierText.modifier (m : ModifierText) : Modifier :=
  match m.mark with
  | .explode => .explode (wordOr 0 m.amount)
  | .keepHigh => .keepHigh (wordOr 1 m.amount)
  | .keepLow => .keepLow (wordOr 1 m.amount)

/-- The dice roll of a dice term that is written as `raw`. -/
def DiceText.roll (d : DiceText) (raw : List Char) (negative : Bool) : DiceRoll where
  raw := String.ofList raw
  negative := negative
  count := wordOr 1 d.count
  faces := d.faces.word
  modifier := d.modifier.map ModifierText.modifier

def Operand.term (operand : Operand) (raw : List Char) (negative : Bool) : Term :=
  match operand with
  | .dice d => .dice (d.roll raw negative)
  | .constant n => .constant ⟨String.ofList raw, negative, n.word⟩

/-- The term of a summand; its text is the sign and the operand, without the suffix. -/
def Summand.term (t : Summand) : Term :=
  t.operand.term (t.sign.char :: Token.text t.operand.tokens) (t.sign = .minus)

namespace Formula

/-- The batch every repetition evaluates. -/
def batch (F : Formula) : Batch where
  lead := F.lead.roll (Token.text F.lead.tokens) false
  rest := F.rest.map Summand.term

/-- The repetition suffixes, in the order of the text. -/
def suffixes (F : Formula) : List Digits := (F.times :: F.rest.map Summand.times).filterMap id

/-- How often the formula is evaluated. -/
def repetitions (F : Formula) : Nat :=
  match F.suffixes.getLast? with
  | none => 1
  | some n => n.value

def batches (F : Formula) : List Batch := List.replicate F.repetitions F.batch

@[simp] theorem length_batches (F : Formula) : F.batches.length = F.repetitions := by
  simp [batches]

end Formula

end DiceNotation
