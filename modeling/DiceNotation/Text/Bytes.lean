/-!
# Places in a text

A place in a text is given by the number of bytes before it, in UTF-8.
-/

namespace DiceNotation

/-- Splits a text after a number of bytes, unless that is beyond its end or inside a character. -/
def splitBytes : Nat → List Char → Option (List Char × List Char)
  | 0, cs => some ([], cs)
  | _ + 1, [] => none
  | n + 1, c :: cs =>
    if c.utf8Size ≤ n + 1 then
      (splitBytes (n + 1 - c.utf8Size) cs).map fun (before, after) => (c :: before, after)
    else none

end DiceNotation
