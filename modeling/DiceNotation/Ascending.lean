/-!
# Ascending lists

Items collected in their order, each of them once, however often and in whatever order they come.
-/

namespace DiceNotation.Ascending

variable {α : Type} [Ord α]

/-- Puts an item in its place among ascending ones, unless it is there already. -/
def insert (a : α) : List α → List α
  | [] => [a]
  | b :: bs =>
    match compare a b with
    | .lt => a :: b :: bs
    | .eq => b :: bs
    | .gt => b :: insert a bs

/-- The items of a list in ascending order, each once. -/
def ofList (as : List α) : List α := as.foldr insert []

end DiceNotation.Ascending
