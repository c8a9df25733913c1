import DiceNotation.Term

/-!
# Batches

One complete evaluation of a formula. A batch opens with a dice roll, which the type guarantees;
a list of terms that opens otherwise is no batch.
-/

namespace DiceNotation

/-- The leading dice roll and the terms after it. -/
structure Batch where
  lead : DiceRoll
  rest : List Term
  deriving Repr, DecidableEq

namespace Batch

def terms (b : Batch) : List Term := .dice b.lead :: b.rest

/-- The batch of a list of terms. -/
def ofTerms? : List Term → Option Batch
  | .dice d :: rest => some ⟨d, rest⟩
  | _ => none

def text (b : Batch) : String := String.join (b.terms.map Term.raw)

@[simp] theorem ofTerms?_terms (b : Batch) : ofTerms? b.terms = some b := rfl

/-- A list of terms is a batch when it is the terms of one. -/
theorem ofTerms?_eq_some_iff {ts : List Term} {b : Batch} :
    ofTerms? ts = some b ↔ ts = b.terms := by
  constructor
  · intro h
    unfold ofTerms? at h
    split at h
    · obtain rfl := Option.some.inj h
      rfl
    · simp at h
  · rintro rfl
    rfl

end Batch

end DiceNotation
