import DiceNotation.Formula.Token

/-!
# Formulas

A formula opens with a dice term and goes on with signed terms, each a dice term or a constant.
Any term may carry a repetition suffix `xN`. The types below are the derivations of that grammar:
every value of `Formula` has a text, and `Formula.read` reads exactly those texts.
-/

namespace DiceNotation

/-- A dice modifier as written: its mark and, if given, its number. -/
structure ModifierText where
  mark : Mark
  amount : Option Digits
  deriving Repr, DecidableEq

/-- A dice term as written, its sign and suffix apart. -/
structure DiceText where
  count : Option Digits
  faces : Digits
  modifier : Option ModifierText
  deriving Repr, DecidableEq

/-- What a sign applies to. -/
inductive Operand where
  | dice (dice : DiceText)
  | constant (digits : Digits)
  deriving Repr, DecidableEq

/-- A signed term with its repetition suffix. -/
structure Summand where
  sign : Sign
  operand : Operand
  times : Option Digits
  deriving Repr, DecidableEq

/-- A whole formula: the leading dice term, its repetition suffix, and the signed terms. -/
structure Formula where
  lead : DiceText
  times : Option Digits
  rest : List Summand
  deriving Repr, DecidableEq

def numberTokens : Option Digits → List Token
  | none => []
  | some n => [.number n]

def timesTokens : Option Digits → List Token
  | none => []
  | some n => [.times, .number n]

def ModifierText.tokens (m : ModifierText) : List Token := .mark m.mark :: numberTokens m.amount

def modifierTokens : Option ModifierText → List Token
  | none => []
  | some m => m.tokens

def DiceText.tokens (d : DiceText) : List Token :=
  numberTokens d.count ++ .die :: .number d.faces :: modifierTokens d.modifier

def Operand.tokens : Operand → List Token
  | .dice d => d.tokens
  | .constant n => [.number n]

def Summand.tokens (t : Summand) : List Token :=
  .sign t.sign :: (t.operand.tokens ++ timesTokens t.times)

namespace Formula

def tokens (F : Formula) : List Token :=
  F.lead.tokens ++ timesTokens F.times ++ F.rest.flatMap Summand.tokens

def text (F : Formula) : List Char := Token.text F.tokens

/-- The formula with one more signed term at its end. -/
def push (F : Formula) (t : Summand) : Formula := { F with rest := F.rest ++ [t] }

theorem tokens_lead (d : DiceText) (times : Option Digits) :
    (⟨d, times, []⟩ : Formula).tokens = d.tokens ++ timesTokens times := by
  simp [tokens]

@[simp] theorem tokens_push (F : Formula) (t : Summand) :
    (F.push t).tokens = F.tokens ++ t.tokens := by
  simp [push, tokens]

end Formula

end DiceNotation
