import DiceNotation.Batch
import DiceNotation.Results
import DiceNotation.Source

/-!
# Evaluation

Terms are evaluated in order against a source of draws. A term is checked before it draws, so an
invalid one leaves the source alone; whatever fails later, the draws made until then are spent and
the state of the source is kept.
-/

namespace DiceNotation

/-- The most dice a term may throw, explosions included. -/
def maxDice : Nat := 5000

def maxFaces : Nat := 5000

/-- Why a well-formed roll cannot be evaluated. -/
inductive EvaluationFault where
  | noFaces
  | noDice
  | tooManyDice
  | tooManyFaces
  | keepOutOfRange (keep count : UInt64)
  | endlessExplosion
  /-- The source returned a value that the die does not have. -/
  | badDraw (value faces : UInt64)
  | tooManyDraws
  | constantTooLarge
  | totalOverflow
  | grandTotalOverflow
  deriving Repr, DecidableEq

def EvaluationFault.message : EvaluationFault → String
  | .noFaces => "a dice needs at least one side"
  | .noDice => "can't roll less than one dice"
  | .tooManyDice => "exceeded max allowed amount of dices `" ++ decimal maxDice ++ "`"
  | .tooManyFaces => "exceeded max allowed number of dice sides `" ++ decimal maxFaces ++ "`"
  | .keepOutOfRange keep count =>
    "keep count out of range, can't keep `" ++ decimal keep.toNat ++ "` of `" ++
      decimal count.toNat ++ "` dices"
  | .endlessExplosion => "can't explode a one sided dice without a limit"
  | .badDraw value faces =>
    "random source returned `" ++ decimal value.toNat ++ "` for a " ++ decimal faces.toNat ++
      " sided dice"
  | .tooManyDraws => "too many dice rolled, exceeded `" ++ decimal maxDice ++ "`"
  | .constantTooLarge => "constant too large"
  | .totalOverflow => "dice total overflow"
  | .grandTotalOverflow => "grand total overflow"

/-- A computation that draws from a source and may fail; a failure keeps the source's state. -/
abbrev Rolling (σ : Type) := ExceptT EvaluationFault (StateM σ)

namespace Source

variable {σ : Type} (src : Source σ)

/-- Throws one die and refuses a value that it does not have. -/
def die (faces : UInt64) : Rolling σ Outcome := do
  let value ← modifyGet (src.draw faces)
  if value = 0 ∨ faces < value then throw (.badDraw value faces)
  else pure (.ofDraw value faces)

def dice (faces : UInt64) : Nat → Rolling σ (List Outcome)
  | 0 => pure []
  | n + 1 => do
    let o ← src.die faces
    let os ← dice faces n
    pure (o :: os)

/-- Throws one exploding die that has exploded `exploded` times already. At most `room` more draws
may be recorded; the result says how many of them are left. A draw is made before there is found
to be no room for it. -/
def explodingDie (faces limit : UInt64) : (exploded room : Nat) → Rolling σ (List Outcome × Nat)
  | _, 0 => do
    let _ ← src.die faces
    throw .tooManyDraws
  | exploded, room + 1 => do
    let o ← src.die faces
    if o.value = faces ∧ (limit = 0 ∨ exploded < limit.toNat) then
      let (os, left) ← explodingDie faces limit (exploded + 1) room
      pure (o :: os, left)
    else pure ([o], room)

/-- Throws a number of exploding dice, each of which starts counting its explosions afresh. -/
def explodingDice (faces limit : UInt64) : (count room : Nat) → Rolling σ (List Outcome)
  | 0, _ => pure []
  | count + 1, room => do
    let (os, left) ← src.explodingDie faces limit 0 room
    let rest ← explodingDice faces limit count left
    pure (os ++ rest)

end Source

namespace DiceRoll

/-- What forbids a roll before any die is thrown. -/
def fault? (d : DiceRoll) : Option EvaluationFault :=
  if d.faces < 1 then some .noFaces
  else if d.count < 1 then some .noDice
  else if maxDice < d.count.toNat then some .tooManyDice
  else if maxFaces < d.faces.toNat then some .tooManyFaces
  else match d.modifier with
    | some (.explode limit) => if limit = 0 ∧ d.faces = 1 then some .endlessExplosion else none
    | some (.keepHigh keep) | some (.keepLow keep) =>
      if keep = 0 ∨ d.count ≤ keep then some (.keepOutOfRange keep d.count) else none
    | none => none

def draw {σ : Type} (d : DiceRoll) (src : Source σ) : Rolling σ (List Outcome) :=
  match d.modifier with
  | some (.explode limit) => src.explodingDice d.faces limit d.count.toNat maxDice
  | _ => src.dice d.faces d.count.toNat

/-- The sum of the draws that count: all, or all but the lowest or the highest ones. -/
def magnitude (d : DiceRoll) (draws : List UInt64) : UInt64 :=
  match d.modifier with
  | some (.keepHigh keep) => sum draws - sum ((sorted draws).take (d.count - keep).toNat)
  | some (.keepLow keep) => sum draws - sum ((sorted draws).reverse.take (d.count - keep).toNat)
  | _ => sum draws
where
  /-- The draws in ascending order. -/
  sorted (draws : List UInt64) : List UInt64 := draws.mergeSort

def evaluate {σ : Type} (d : DiceRoll) (src : Source σ) : Rolling σ TermResult := do
  match d.fault? with
  | some fault => throw fault
  | none =>
    let rolls ← d.draw src
    let draws := rolls.map Outcome.value
    let magnitude := d.magnitude draws
    if halfWordCount ≤ magnitude.toNat then throw .totalOverflow
    else
      pure {
        term := .dice d
        rolls := some rolls
        trace := some (traceText draws magnitude d.negative)
        total := if d.negative then -magnitude.toInt64 else magnitude.toInt64 }

end DiceRoll

def Term.evaluate {σ : Type} (t : Term) (src : Source σ) : Rolling σ TermResult :=
  match t with
  | .dice d => d.evaluate src
  | .constant c =>
    match c.amount? with
    | some total => pure ⟨t, none, none, total⟩
    | none => throw .constantTooLarge

def addTotals? (a b : Int64) : Option Int64 := toInt64? (a.toInt + b.toInt)

/-- The sum of totals, if every partial sum from the left fits. -/
def grandTotal? (totals : List Int64) : Option Int64 := totals.foldlM addTotals? 0

/-- Sums up the results of a batch's terms and judges the grand total. -/
def BatchResult.ofResults? (results : List TermResult) (thresholds : Thresholds) :
    Option BatchResult :=
  (grandTotal? (results.map TermResult.total)).map fun grandTotal =>
    ⟨results, thresholds, grandTotal, thresholds.verdict grandTotal⟩

/-- Evaluates the terms of a batch in order, then sums them up. -/
def Batch.evaluate {σ : Type} (b : Batch) (thresholds : Thresholds) (src : Source σ) :
    Rolling σ BatchResult := do
  let results ← b.terms.mapM (·.evaluate src)
  match BatchResult.ofResults? results thresholds with
  | some r => pure r
  | none => throw .grandTotalOverflow

def evaluateAll {σ : Type} (batches : List Batch) (thresholds : Thresholds) (src : Source σ) :
    Rolling σ Results := do
  let results ← batches.mapM (·.evaluate thresholds src)
  pure ⟨results⟩

/-- Runs a computation on a state: its outcome and the state it leaves. -/
def Rolling.runOn {σ α : Type} (m : Rolling σ α) (state : σ) : Except EvaluationFault α × σ :=
  m.run.run state

end DiceNotation
