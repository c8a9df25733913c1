import DiceNotation.Ascending
import DiceNotation.Formula

/-!
# The rules of a formula

A text without white space is matched by rules, which begin with the text or where another rule has
got to:

    number, count, faces, constant = digit+
    explode  = '!' number?
    keepHigh = 'kh' number?
    keepLow  = 'kl' number?
    dice     = count? 'd' faces (explode | keepHigh | keepLow)?
    add      = '+'
    sub      = '-'
    batch    = 'x' number
    term     = dice batch?
    modTerm  = (add | sub) (dice | constant) batch?
    formula  = term modTerm* end

Of alternatives the first one that matches is taken, and nothing is taken back later to match more.
What is optional or repeated is matched as long as it can be. Of the rules that fail, those that do
so at the furthest position are kept: they tell what could have followed there.
-/

namespace DiceNotation

/-- The rules by name, in the order in which alternatives are listed; the end of the text is the
first of them. -/
inductive Rule where
  | finish
  | number
  | count
  | faces
  | constant
  | explode
  | keepHigh
  | keepLow
  | dice
  | add
  | sub
  | batch
  | term
  | modTerm
  | formula
  deriving Repr, DecidableEq, Ord

/-- The rules that failed at the furthest position at which any did, in the order of trying. -/
structure Attempts where
  position : Nat
  rules : List Rule
  deriving Repr, DecidableEq

namespace Attempts

def none : Attempts := ⟨0, []⟩

/-- How many rules are known to have failed at a position. -/
def countAt (a : Attempts) (position : Nat) : Nat :=
  if a.position = position then a.rules.length else 0

/-- The attempts once a rule has failed that began at `position` with the attempts `before` and got
to the attempts `after` within. It stands for the rules that failed where it began itself, unless
this was a single one; where a rule within got further, there is nothing to add. -/
def note (before : Attempts) (rule : Rule) (position : Nat) (after : Attempts) : Attempts :=
  if after.countAt position = before.countAt position + 1 then after
  else if after.position = position then
    ⟨position, after.rules.take (before.countAt position) ++ [rule]⟩
  else if after.position < position then ⟨position, [rule]⟩
  else after

end Attempts

/-- Where matching has got to: the text ahead, the bytes before it, and the attempts so far. -/
structure Cursor where
  ahead : List Char
  position : Nat
  attempts : Attempts
  deriving Repr, DecidableEq

/-- Matches a beginning of the text ahead. A matcher that fails has moved nothing and leaves its
attempts. -/
abbrev Matcher (α : Type) := StateT Cursor (Except Attempts) α

namespace Matcher

variable {α : Type}

/-- Matches this text, which is ASCII. -/
def literal (cs : List Char) : Matcher Unit := fun c =>
  if cs.isPrefixOf c.ahead then
    .ok ((), { c with ahead := c.ahead.drop cs.length, position := c.position + cs.length })
  else .error c.attempts

/-- Matches all digits up to the next other character, at least one. -/
def digits : Matcher Digits := fun c =>
  if h : c.ahead.takeWhile Char.isDigit = [] then .error c.attempts
  else
    let n : Digits := ⟨c.ahead.takeWhile Char.isDigit, h, List.all_eq_true.mp List.all_takeWhile⟩
    .ok (n, { c with
      ahead := c.ahead.dropWhile Char.isDigit
      position := c.position + n.width })

/-- Matches the end of the text. -/
def atEnd : Matcher Unit := fun c =>
  if c.ahead.isEmpty then .ok ((), c) else .error c.attempts

def optional (m : Matcher α) : Matcher (Option α) := fun c =>
  match m c with
  | .ok (a, next) => .ok (some a, next)
  | .error attempts => .ok (none, { c with attempts := attempts })

/-- Matches the first alternative that can be. -/
def either (m m' : Matcher α) : Matcher α := fun c =>
  match m c with
  | .ok found => .ok found
  | .error attempts => m' { c with attempts := attempts }

/-- Matches as often as it can, up to a number of times. -/
def upTo : Nat → Matcher α → Matcher (List α)
  | 0, _ => pure []
  | n + 1, m => fun c =>
    match m c with
    | .ok (a, next) =>
      match upTo n m next with
      | .ok (as, last) => .ok (a :: as, last)
      | .error attempts => .error attempts
    | .error attempts => .ok ([], { c with attempts := attempts })

/-- Matches as often as it can. Every match takes at least one character, so there are fewer of them
than the bound. -/
def many (m : Matcher α) : Matcher (List α) := fun c => upTo (c.ahead.length + 1) m c

/-- What a rule matches; if it fails, this is noted. -/
def rule (r : Rule) (m : Matcher α) : Matcher α := fun c =>
  match m c with
  | .ok found => .ok found
  | .error attempts => .error (c.attempts.note r c.position attempts)

/-- A rule that matches digits. -/
def digitRun (r : Rule) : Matcher Digits := rule r digits

/-- A rule that matches a mark and its number, if there is one. -/
def marked (r : Rule) (m : Mark) : Matcher ModifierText := rule r do
  literal m.chars
  return ⟨m, ← optional (digitRun .number)⟩

def modifier : Matcher ModifierText :=
  either (marked .explode .explode)
    (either (marked .keepHigh .keepHigh) (marked .keepLow .keepLow))

def dice : Matcher DiceText := rule .dice do
  let count ← optional (digitRun .count)
  literal ['d']
  let faces ← digitRun .faces
  let modifier ← optional modifier
  return ⟨count, faces, modifier⟩

/-- A rule that matches a sign. -/
def signed (r : Rule) (s : Sign) : Matcher Sign := rule r do
  literal [s.char]
  return s

def batch : Matcher Digits := rule .batch do
  literal ['x']
  digitRun .number

def term : Matcher (DiceText × Option Digits) := rule .term do
  let dice ← dice
  let times ← optional batch
  return (dice, times)

def operand : Matcher Operand :=
  either (Operand.dice <$> dice) (Operand.constant <$> digitRun .constant)

def modTerm : Matcher Summand := rule .modTerm do
  let sign ← either (signed .add .plus) (signed .sub .minus)
  let operand ← operand
  let times ← optional batch
  return ⟨sign, operand, times⟩

def formula : Matcher Formula := rule .formula do
  let (lead, times) ← term
  let rest ← many modTerm
  rule .finish atEnd
  return ⟨lead, times, rest⟩

end Matcher

end DiceNotation
