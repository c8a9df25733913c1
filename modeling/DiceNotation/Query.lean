import DiceNotation.Evaluation
import DiceNotation.Formula.Parse
import DiceNotation.Random.Generator

/-!
# Queries

A formula's text together with the batches it denotes and the thresholds they are judged by.
A query is answered with any source of draws, or with a fresh generator for each batch, in which
case a batch depends on the seed and its index only.
-/

namespace DiceNotation

/-- Why a roll fails. -/
inductive RollError where
  | parse (error : ParseError)
  | evaluation (fault : EvaluationFault)
  deriving Repr, DecidableEq

def RollError.text : RollError → String
  | .parse e => e.text
  | .evaluation f => f.message

/-- Evaluates each batch with a generator of its own; the seeds are consecutive, modulo 2^64. -/
def evaluateSeeded (thresholds : Thresholds) :
    (seed : UInt64) → List Batch → Except EvaluationFault (List BatchResult)
  | _, [] => .ok []
  | seed, b :: bs => do
    let r ← ((b.evaluate thresholds Generator.source).runOn (Generator.ofSeed seed)).1
    let rs ← evaluateSeeded thresholds (seed + 1) bs
    return r :: rs

structure Query where
  formula : String
  batches : List Batch
  thresholds : Thresholds
  deriving Repr, DecidableEq

namespace Query

def ofFormula (formula : String) : Except ParseError Query := do
  let batches ← parse formula
  return ⟨formula, batches, .unbounded⟩

def withThresholds (q : Query) (thresholds : Thresholds) : Query :=
  { q with thresholds := thresholds }

/-- Answers a query from a source. -/
def answer {σ : Type} (q : Query) (src : Source σ) : Rolling σ Results :=
  evaluateAll q.batches q.thresholds src

/-- Answers a query from a seed, with a fresh generator for each batch. -/
def answerSeeded (q : Query) (seed : UInt64) : Except EvaluationFault Results :=
  (evaluateSeeded q.thresholds seed q.batches).map Results.mk

end Query

/-- Parses a formula and evaluates it. A formula that does not parse draws nothing. -/
def roll {σ : Type} (formula : String) (thresholds : Thresholds) (src : Source σ) (state : σ) :
    Except RollError Results × σ :=
  match Query.ofFormula formula with
  | .error e => (.error (.parse e), state)
  | .ok q =>
    let (outcome, state) := ((q.withThresholds thresholds).answer src).runOn state
    (outcome.mapError .evaluation, state)

end DiceNotation
