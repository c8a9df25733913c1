import DiceNotation.Console.History
import DiceNotation.Formula.Parse

/-!
# Editing a line

What an editor offers while a formula is typed: completions of a `k` that stands at the cursor, the
rest of an earlier line that begins the same, and colours that tell a formula from other text.
Positions are byte offsets.
-/

namespace DiceNotation

namespace Editor

/-- The texts that may replace a line from `start` up to the cursor. -/
structure Completion where
  start : Nat
  candidates : List String
  deriving Repr, DecidableEq

/-- The modifiers that a `k` can become. -/
def keepModifiers : List String := ["kh", "kl"]

/-- Completes the text before the cursor; `none` if the cursor is not at a place in the line. -/
def complete? (line : String) (position : Nat) : Option Completion :=
  (splitBytes position line.toList).map fun (before, _) =>
    if before.getLast? = some 'k' then ⟨position - 1, keepModifiers⟩ else ⟨position, []⟩

/-- What the newest entry that begins with the line goes on with. The cursor has to be at the end
of the line; an entry equal to the line has nothing to offer. -/
def hint? (history : History) (line : String) (position : Nat) : Option String :=
  if line.isEmpty || position < line.utf8ByteSize then none
  else
    match history.newest? line with
    | none => none
    | some entry =>
      if entry = line then none
      else (splitBytes position entry.toList).map fun (_, rest) => String.ofList rest

def resetStyle : List Char := ['\x1b', '[', '0', 'm']

/-- A text in which a style is taken up again wherever the text ends all styles. -/
def resume (style : List Char) : List Char → List Char
  | '\x1b' :: '[' :: '0' :: 'm' :: cs => resetStyle ++ style ++ resume style cs
  | c :: cs => c :: resume style cs
  | [] => []

def styled (style : Nat) (text : String) : String :=
  let start := ['\x1b', '['] ++ Nat.toDigits 10 style ++ ['m']
  String.ofList (start ++ resume start text.toList ++ resetStyle)

def red : Nat := 31

def dim : Nat := 2

/-- A line that is neither blank nor a formula is red. -/
def highlight (line : String) : String :=
  if (trim line.toList).isEmpty || (parse line).isOk then line else styled red line

def highlightHint (hint : String) : String := styled dim hint

/-- The editor's own prompt is shown as it was prepared, any other one unchanged. -/
def highlightPrompt (prepared prompt : String) (isDefault : Bool) : String :=
  if isDefault then prepared else prompt

/-- Every keystroke may change the colours of the line. -/
def highlightsEachKey : Bool := true

/-- Lines are not judged while they are typed. -/
def validatesWhileTyping : Bool := false

end Editor

end DiceNotation
