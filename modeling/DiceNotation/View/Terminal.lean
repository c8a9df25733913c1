import DiceNotation.Text.Lines
import DiceNotation.View

/-!
# Terminal text

A terminal shows the Markdown of a view by styles, so that only the words remain: the marks around
bold, italic and code text vanish, and an item of a list gets a bullet. An indented line is code as
a whole and keeps its marks.
-/

namespace DiceNotation.Terminal

/-- Drops the marks of a line. A backquote begins or ends code, two stars bold text and one star
italic text. Within code a star is a character like any other, and so is a star at the end of a
line if it ends no italic text. -/
def dropMarks (inItalics : Bool) : (inCode : Bool) → List Char → List Char
  | _, [] => []
  | inCode, '\x60' :: cs => dropMarks inItalics (!inCode) cs
  | true, c :: cs => c :: dropMarks inItalics true cs
  | false, '*' :: '*' :: cs => dropMarks inItalics false cs
  | false, ['*'] => if inItalics then [] else ['*']
  | false, '*' :: cs => dropMarks (!inItalics) false cs
  | false, c :: cs => c :: dropMarks inItalics false cs

/-- A line as it is shown, and whether it is code as a whole. -/
structure ShownLine where
  isCode : Bool
  words : List Char
  deriving Repr, DecidableEq

/-- Shows a line: without its indentation if it is code, else without its marks. -/
def ShownLine.ofChars : List Char → ShownLine
  | ' ' :: ' ' :: ' ' :: ' ' :: cs => ⟨true, cs⟩
  | '\t' :: cs => ⟨true, cs⟩
  | '*' :: ' ' :: cs => ⟨false, '•' :: ' ' :: dropMarks false false cs⟩
  | cs => ⟨false, dropMarks false false cs⟩

/-- The columns that a character of a view takes: the ideographic space and the critical marks take
two, all others, tabs among them, take one. -/
def columns (c : Char) : Nat :=
  if c.toNat = 0x3000 || c = '🤩' || c = '🥶' then 2 else 1

def ShownLine.width (l : ShownLine) : Nat := l.words.foldl (fun n c => n + columns c) 0

/-- Fills lines of code up to the width of the widest; the background behind them is a block. -/
def fillBlock (block : List ShownLine) : List (List Char) :=
  let width := block.foldl (fun n l => max n l.width) 0
  block.map fun l =>
    if l.isCode then l.words ++ List.replicate (width - l.width) ' ' else l.words

/-- The words of a Markdown text, each line with a line break. -/
def plain (text : String) : String :=
  let shown := (textLines text.toList).map ShownLine.ofChars
  let lines := (shown.splitBy fun a b => a.isCode = b.isCode).flatMap fillBlock
  String.ofList (lines.flatMap fun line => line ++ ['\n'])

def print (format : Format) (formula : String) (r : Results) : String :=
  match format with
  | .ron => r.render format formula ++ "\n"
  | .compact | .verbose => plain (r.render format formula)

end DiceNotation.Terminal
