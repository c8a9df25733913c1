import DiceNotation.Console.History
import DiceNotation.Console.Line
import DiceNotation.Console.Options
import DiceNotation.Query
import DiceNotation.View.Terminal

/-!
# Sessions

A session rolls the lines of an input one after the other, all with one generator. Every line is
counted and enters the history; one that is not blank is rolled, and a roll that fails is reported
and leaves the generator where it got to.
-/

namespace DiceNotation

/-- What every roll of a session has in common, and the generator as the rolls so far left it. -/
structure Roller where
  format : Format
  thresholds : Thresholds
  generator : Generator
  deriving Repr, DecidableEq

/-- What one step prints: on the standard output, and as errors. -/
structure Printed where
  output : String
  errors : List String
  deriving Repr, DecidableEq

namespace Roller

/-- The roller that options ask for; `seed` is used where they leave it open. -/
def ofOptions (options : Options) (seed : UInt64) : Roller where
  format := options.format
  thresholds := ⟨options.min, options.max⟩
  generator := Generator.ofSeed (options.seed.getD seed)

def roll (r : Roller) (formula : String) : Except RollError Results × Roller :=
  let (outcome, generator) :=
    DiceNotation.roll formula r.thresholds Generator.source r.generator
  (outcome, { r with generator := generator })

def rollEach (r : Roller) : List String → List (Except RollError Results)
  | [] => []
  | formula :: formulas =>
    let (outcome, r) := r.roll formula
    outcome :: rollEach r formulas

def print (r : Roller) (formula : String) : Except RollError Printed × Roller :=
  let (outcome, r) := r.roll formula
  (outcome.map fun results => ⟨Terminal.print r.format formula results, []⟩, r)

end Roller

def errorLine (e : RollError) : String := "error: " ++ e.text

structure Session where
  roller : Roller
  history : History
  number : Nat
  deriving Repr, DecidableEq

namespace Session

def start (roller : Roller) (history : History) : Session := ⟨roller, history, 1⟩

def prompt (s : Session) : String := "realm: " ++ decimal s.number ++ "> "

def enterClean (s : Session) (line : List Char) : Printed × Session :=
  let history := s.history.add (String.ofList line)
  let formula := trim line
  if formula.isEmpty then (⟨"", []⟩, ⟨s.roller, history, s.number + 1⟩)
  else
    let (outcome, roller) := s.roller.print (String.ofList formula)
    let printed := match outcome with
      | .ok printed => printed
      | .error e => ⟨"", [errorLine e]⟩
    (printed, ⟨roller, history, s.number + 1⟩)

/-- Enters a line; `none` if its backspaces cannot be carried out, which breaks the session off. -/
def enter? (s : Session) (line : List Char) : Option (Printed × Session) :=
  (Line.clean? line).map s.enterClean

/-- Enters lines one after the other, each of them asked for, and asks once more at the end. There
is no session left if it has been broken off. -/
def enterAll (s : Session) : List (List Char) → Printed × Option Session
  | [] => (⟨s.prompt, []⟩, some s)
  | line :: lines =>
    match s.enter? line with
    | none => (⟨s.prompt, []⟩, none)
    | some (printed, next) =>
      let (others, last) := enterAll next lines
      (⟨s.prompt ++ printed.output ++ others.output, printed.errors ++ others.errors⟩, last)

end Session

end DiceNotation
