import DiceNotation.Outcome
import DiceNotation.Term
import DiceNotation.Thresholds
import DiceNotation.Trace

/-!
# Results

What an evaluation leaves behind: a result for each term, summed up for each batch. Results are
plain values that can also be read back from their serialized form, so nothing here is recomputed.
-/

namespace DiceNotation

/-- The result of one term. A constant has no rolls and no trace. -/
structure TermResult where
  term : Term
  /-- Every draw in order, explosions and dropped dice included. -/
  rolls : Option (List Outcome)
  trace : Option String
  total : Int64
  deriving Repr, BEq

/-- The results of one batch with their grand total. -/
structure BatchResult where
  results : List TermResult
  thresholds : Thresholds
  grandTotal : Int64
  verdict : Option Verdict
  deriving Repr, BEq

structure Results where
  batches : List BatchResult
  deriving Repr, BEq

namespace TermResult

def text (r : TermResult) : String :=
  match r.trace with
  | some trace => r.term.raw ++ " " ++ trace
  | none => r.term.raw

/-- The marks of the critical draws, in order. -/
def critics (r : TermResult) : List Critic :=
  ((r.rolls.getD []).map Outcome.critic).filter (· ≠ .plain)

end TermResult

namespace BatchResult

def totals (r : BatchResult) : List Int64 := r.results.map TermResult.total

def traces (r : BatchResult) : List String := r.results.filterMap TermResult.trace

/-- The totals, the grand total, and the verdict if there is one. -/
def text (r : BatchResult) : String :=
  totalsText r.totals r.grandTotal ++
    match r.verdict with
    | some v => " *" ++ v.text ++ "*"
    | none => ""

end BatchResult

namespace Results

def totals (r : Results) : List Int64 := r.batches.map BatchResult.grandTotal

def successes (r : Results) : Nat := r.batches.countP fun b => b.verdict = some .success

def text (r : Results) : String := String.join (r.batches.map fun b => b.text ++ "\n")

end Results

end DiceNotation
