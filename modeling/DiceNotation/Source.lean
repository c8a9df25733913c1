/-!
# Sources of draws

Dice are thrown by a source: given a number of faces and a state, it returns a value and the next
state. A source is trusted with nothing; whoever throws a die checks the value. A source need not
have every die; evaluation asks only for dice with faces, which all sources here have.
-/

namespace DiceNotation

/-- Something that throws dice. -/
structure Source (σ : Type) where
  draw : UInt64 → σ → UInt64 × σ
  /-- The source has a die with so many faces; of another die, a draw says nothing. -/
  offers : UInt64 → σ → Bool := fun _ _ => true

namespace Source

variable {σ : Type}

/-- The source that also counts the draws it has served. -/
def counted (src : Source σ) : Source (σ × Nat) where
  draw faces state :=
    let (value, next) := src.draw faces state.1
    (value, next, state.2 + 1)
  offers faces state := src.offers faces state.1

/-- Throws a die; `none` if the source does not have it. -/
def throw? (src : Source σ) (faces : UInt64) (state : σ) : Option (UInt64 × σ) :=
  if src.offers faces state then some (src.draw faces state) else none

/-- Throws the same die several times; `none` if the source does not have it. -/
def throws? (src : Source σ) (faces : UInt64) : Nat → σ → Option (List UInt64 × σ)
  | 0, state => some ([], state)
  | n + 1, state => do
    let (value, next) ← src.throw? faces state
    let (values, last) ← throws? src faces n next
    return (value :: values, last)

end Source

/-- What a script returns once its values are used up. -/
inductive Script.Ending where
  /-- Always the same value. -/
  | value (value : UInt64)
  /-- The highest face of the die thrown. -/
  | highest
  deriving Repr, DecidableEq

/-- A fixed sequence of draws. -/
structure Script where
  values : List UInt64
  ending : Script.Ending
  deriving Repr, DecidableEq

namespace Script

def next (faces : UInt64) (s : Script) : UInt64 × Script :=
  match s.values, s.ending with
  | v :: vs, _ => (v, { s with values := vs })
  | [], .value v => (v, s)
  | [], .highest => (faces, s)

def source : Source Script where
  draw := next

end Script

end DiceNotation
