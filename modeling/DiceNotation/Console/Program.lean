import DiceNotation.Console.Session

/-!
# The program

A whole run from the command line to the exit code. With a formula on the command line the run is
that one roll; without, it is a session whose history goes back to its file.
-/

namespace DiceNotation

structure Invocation where
  words : List String
  environment : Environment
  /-- The contents of the environment file, if there is one. -/
  environmentFile : Option String
  /-- The contents of the history file, if there is one. -/
  historyFile : Option String
  /-- A history file can be written. -/
  historyWritable : Bool
  input : List UInt8
  /-- The seed that is used if none is given. -/
  seed : UInt64

structure Report where
  code : Nat
  output : String
  errors : List String
  historyFile : Option String
  deriving Repr, DecidableEq

def version : String := "realm-repl 0.1.0\n"

def usage : String :=
  "Roll dice formulas from the terminal\n\nUsage: [OPTIONS] [FORMULA]...\n"

/-- The exit code of a run that is broken off. -/
def brokenOff : Nat := 101

namespace Invocation

/-- The report of a run that leaves the history alone. -/
def report (i : Invocation) (code : Nat) (output : String) (errors : List String) : Report :=
  ⟨code, output, errors, i.historyFile⟩

/-- The report of a run whose command line is not carried out. -/
def refuse (i : Invocation) : OptionsFault → Report
  | .displayHelp => i.report 0 usage []
  | .displayVersion => i.report 0 version []
  | fault => i.report 2 "" ["error: " ++ fault.name]

/-- The options of a run, or the report if it ends before it has any. The environment file adds to
the environment. -/
def options (i : Invocation) : Except Report Options :=
  match i.environment.supplyFile? (i.environmentFile.getD "") with
  | none => .error (i.report brokenOff "" [])
  | some environment => (Options.read i.words environment).mapError i.refuse

def rollOnce (i : Invocation) (options : Options) : Report :=
  match ((Roller.ofOptions options i.seed).print (" ".intercalate options.formula)).1 with
  | .ok printed => i.report 0 printed.output printed.errors
  | .error e => i.report 1 "" [errorLine e]

def session (i : Invocation) (options : Options) : Session :=
  let history := History.empty false
  Session.start (Roller.ofOptions options i.seed) <|
    match i.historyFile with
    | some text => history.load text
    | none => history

/-- The run of a session. It fails if there is something to write to the history and no way to; a
session that is broken off writes nothing. -/
def runSession (i : Invocation) (options : Options) : Report :=
  match (i.session options).enterAll (Line.ofBytes i.input) with
  | (printed, none) => i.report brokenOff printed.output printed.errors
  | (printed, some last) =>
    match last.history.save? i.historyFile, i.historyWritable with
    | none, _ => i.report 0 printed.output printed.errors
    | some text, true => ⟨0, printed.output, printed.errors, some text⟩
    | some _, false => i.report 1 printed.output printed.errors

def run (i : Invocation) : Report :=
  match i.options with
  | .error report => report
  | .ok options => if options.formula.isEmpty then i.runSession options else i.rollOnce options

end Invocation

end DiceNotation
