/-!
# Lines

A text cut into its lines. A line ends with a line feed, or with a carriage return and a line feed;
the last one may end with the text.
-/

namespace DiceNotation

/-- The lines of a text without their line breaks. -/
def textLines : List Char → List (List Char)
  | [] => []
  | cs => dropReturns (cs.splitOn '\n')
where
  /-- Drops the carriage return in front of each line break, and the empty end after the last. -/
  dropReturns : List (List Char) → List (List Char)
    | [] | [[]] => []
    | [last] => [last]
    | line :: lines =>
      (if line.getLast? = some '\r' then line.dropLast else line) :: dropReturns lines

end DiceNotation
