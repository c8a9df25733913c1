import DiceNotation.Batch
import DiceNotation.Formula.Rules
import DiceNotation.Text.Blank
import DiceNotation.Text.Bytes

/-!
# Parsing

A text is freed of white space, matched as a formula, and its numbers are read. A malformed text
is always reported as such; only a well-formed one has its numbers read, from left to right.
Positions count bytes of the text without white space.
-/

namespace DiceNotation

/-- What could have followed where matching failed. -/
inductive Expectation where
  | diceTerm
  | constant
  | faces
  | number
  | mark (mark : Mark)
  | sign (sign : Sign)
  | times
  | term
  | finish
  deriving Repr, DecidableEq

def Expectation.text : Expectation → String
  | .diceTerm => "dice term"
  | .constant => "constant"
  | .faces => "number of faces"
  | .number => "number"
  | .mark .explode => "`!`"
  | .mark .keepHigh => "`kh`"
  | .mark .keepLow => "`kl`"
  | .sign .plus => "`+`"
  | .sign .minus => "`-`"
  | .times => "`x` suffix"
  | .term => "term"
  | .finish => "end of formula"

/-- What is expected where a rule failed. Only a dice term begins with a count. -/
def Rule.expectation : Rule → Expectation
  | .count | .dice | .term => .diceTerm
  | .faces => .faces
  | .number => .number
  | .constant => .constant
  | .explode => .mark .explode
  | .keepHigh => .mark .keepHigh
  | .keepLow => .mark .keepLow
  | .add => .sign .plus
  | .sub => .sign .minus
  | .batch => .times
  | .finish => .finish
  | .modTerm | .formula => .term

/-- What is expected where the attempts failed, in the order of the rules and without repetition. -/
def Attempts.expected (a : Attempts) : List Expectation :=
  ((Ascending.ofList a.rules).map Rule.expectation).eraseDups

/-- The most batches a formula may denote. -/
def maxRepetitions : Nat := 100

/-- Why a text is not a formula. -/
inductive ParseFault where
  /-- The text goes on with something that cannot follow. -/
  | unexpectedInput (expected : List Expectation)
  /-- The text ends too early. -/
  | unexpectedEnd (expected : List Expectation)
  /-- A number is 2^64 or more. -/
  | numberTooLarge
  /-- A repetition suffix is zero. -/
  | zeroRepetitions
  /-- A repetition suffix is above the limit. -/
  | tooManyRepetitions
  deriving Repr, DecidableEq

/-- The alternatives of a syntax fault, as shown in its message. -/
def Expectation.list (es : List Expectation) : String :=
  if es.isEmpty then "" else ", expected " ++ " or ".intercalate (es.map Expectation.text)

def ParseFault.message : ParseFault → String
  | .unexpectedInput es => "unexpected input" ++ Expectation.list es
  | .unexpectedEnd es => "unexpected end of formula" ++ Expectation.list es
  | .numberTooLarge => "number too large"
  | .zeroRepetitions => "cannot repeat a roll zero times"
  | .tooManyRepetitions =>
    "exceeded max allowed batch count `" ++ decimal maxRepetitions ++ "`"

/-- A fault, the piece of text it is about, and where that piece begins. -/
structure ParseError where
  fault : ParseFault
  fragment : String
  position : Nat
  deriving Repr, DecidableEq

def ParseError.text (e : ParseError) : String :=
  e.fault.message ++ " at position " ++ decimal e.position ++ ": `" ++ e.fragment ++ "`"

/-- The error of a text that no formula matches, with the attempts that are left. -/
def Attempts.error (a : Attempts) (text : List Char) : ParseError :=
  let rest := ((splitBytes a.position text).map Prod.snd).getD []
  { fault := if rest.isEmpty then .unexpectedEnd a.expected else .unexpectedInput a.expected
    fragment := String.ofList rest
    position := a.position }

-- Of an unknown text no rule can be evaluated, so nothing is gained by looking inside.
/-- The formula that a text without white space matches. -/
@[irreducible]
def Formula.read (text : List Char) : Except ParseError Formula :=
  match Matcher.formula ⟨text, 0, .none⟩ with
  | .ok (F, _) => .ok F
  | .error attempts => .error (attempts.error text)

/-! Reading the numbers of a formula. What is read begins at `position`. -/

def Digits.checkedWord (n : Digits) (position : Nat) : Except ParseError UInt64 :=
  if n.value < wordCount then .ok n.word
  else .error ⟨.numberTooLarge, String.ofList n.chars, position⟩

def checkedWordOr (default : UInt64) (position : Nat) : Option Digits → Except ParseError UInt64
  | none => .ok default
  | some n => n.checkedWord position

/-- The number of a repetition suffix whose `x` stands at `position`. -/
def Digits.checkedTimes (n : Digits) (position : Nat) : Except ParseError UInt64 := do
  let fragment := String.ofList ('x' :: n.chars)
  let times ← n.checkedWord (position + 1)
  if times = 0 then .error ⟨.zeroRepetitions, fragment, position⟩
  else if maxRepetitions < times.toNat then .error ⟨.tooManyRepetitions, fragment, position⟩
  else .ok times

def checkedSuffix (position : Nat) : Option Digits → Except ParseError (Option UInt64)
  | none => .ok none
  | some n => some <$> n.checkedTimes position

def ModifierText.checkedModifier (m : ModifierText) (position : Nat) :
    Except ParseError Modifier :=
  let amountAt := position + m.mark.chars.length
  match m.mark with
  | .explode => Modifier.explode <$> checkedWordOr 0 amountAt m.amount
  | .keepHigh => Modifier.keepHigh <$> checkedWordOr 1 amountAt m.amount
  | .keepLow => Modifier.keepLow <$> checkedWordOr 1 amountAt m.amount

def checkedModifier (position : Nat) : Option ModifierText → Except ParseError (Option Modifier)
  | none => .ok none
  | some m => some <$> m.checkedModifier position

/-- The dice roll of a dice term that is remembered as `raw`. -/
def DiceText.checkedRoll (d : DiceText) (position : Nat) (raw : List Char) (negative : Bool) :
    Except ParseError DiceRoll := do
  let facesAt := position + (Token.text (numberTokens d.count)).length + 1
  let count ← checkedWordOr 1 position d.count
  let faces ← d.faces.checkedWord facesAt
  let modifier ← checkedModifier (facesAt + d.faces.width) d.modifier
  return ⟨String.ofList raw, negative, count, faces, modifier⟩

def Operand.checkedTerm (operand : Operand) (position : Nat) (raw : List Char) (negative : Bool) :
    Except ParseError Term :=
  match operand with
  | .dice d => Term.dice <$> d.checkedRoll position raw negative
  | .constant n => do
    let value ← n.checkedWord position
    return .constant ⟨String.ofList raw, negative, value⟩

/-- The term of a summand, and the last suffix so far, which was `times` before it. -/
def Summand.checkedTerm (t : Summand) (position : Nat) (times : Option UInt64) :
    Except ParseError (Term × Option UInt64) := do
  let raw := t.sign.char :: Token.text t.operand.tokens
  let term ← t.operand.checkedTerm (position + 1) raw (t.sign = .minus)
  let own ← checkedSuffix (position + raw.length) t.times
  return (term, own.or times)

def checkedTerms (position : Nat) (times : Option UInt64) :
    List Summand → Except ParseError (List Term × Option UInt64)
  | [] => .ok ([], times)
  | t :: ts => do
    let (term, times) ← t.checkedTerm position times
    let (terms, times) ← checkedTerms (position + (Token.text t.tokens).length) times ts
    return (term :: terms, times)

/-- As many copies of the formula's batch as its last suffix says. -/
def Formula.checkedBatches (F : Formula) : Except ParseError (List Batch) := do
  let raw := Token.text F.lead.tokens
  let lead ← F.lead.checkedRoll 0 raw false
  let own ← checkedSuffix raw.length F.times
  let restAt := raw.length + (Token.text (timesTokens F.times)).length
  let (rest, times) ← checkedTerms restAt own F.rest
  return List.replicate (times.getD 1).toNat ⟨lead, rest⟩

/-- The batches a formula's text denotes. -/
def parse (formula : String) : Except ParseError (List Batch) := do
  let F ← Formula.read (strip formula.toList)
  F.checkedBatches

end DiceNotation
