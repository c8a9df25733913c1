import DiceNotation.Console.Program

/-!
# Command line

Connects a run to the terminal, the environment and the files it uses.
-/

open DiceNotation

def readFile? (path : String) : IO (Option String) := do
  try
    return some (← IO.FS.readFile path)
  catch _ => return none

/-- The contents of the environment file in a directory or the nearest one above it that has one;
`depth` bounds how far up it is looked for. -/
def findEnvironmentFile (directory : String) : (depth : Nat) → IO (Option String)
  | 0 => return none
  | depth + 1 => do
    match ← readFile? (directory ++ ".env") with
    | some text => return some text
    | none => findEnvironmentFile (directory ++ "../") depth

def readEnvironment (file : String) : IO Environment := do
  let names :=
    ["REALM_ROLL_SEED", "REALM_ROLL_FORMAT", "REALM_REPL_HISTORY"] ++ Environment.mentioned file
  names.filterMapM fun name => return (← IO.getEnv name).map fun value => (name, value)

def randomSeed : IO UInt64 := do
  let bytes ← IO.getRandomBytes 8
  return bytes.toList.foldl (fun seed b => seed * 256 + b.toUInt64) 0

def printStep (printed : Printed) : IO Unit := do
  IO.print printed.output
  printed.errors.forM IO.eprintln

/-- Asks for lines until there are none; there is no session left if one breaks it off. -/
partial def converse (stdin stdout : IO.FS.Stream) (s : Session) : IO (Option Session) := do
  stdout.putStr s.prompt
  stdout.flush
  let line ← try stdin.getLine catch _ => pure ""
  if line.isEmpty then return some s
  match s.enter? line.toList with
  | none => return none
  | some (printed, s) =>
    printStep printed
    converse stdin stdout s

def saveHistory (path : String) (file : Option String) (s : Session) : IO UInt32 := do
  match s.history.save? file with
  | none => return 0
  | some text =>
    try
      IO.FS.writeFile path text
      return 0
    catch _ => return 1

/-- Runs the program on the words of its command line. -/
def main (words : List String) : IO UInt32 := do
  let environmentFile ← findEnvironmentFile "" 64
  let environment ← readEnvironment (environmentFile.getD "")
  let invocation : Invocation := {
    words, environment, environmentFile
    historyFile := none
    historyWritable := false
    input := []
    seed := ← randomSeed }
  match invocation.options with
  | .error report =>
    printStep ⟨report.output, report.errors⟩
    return UInt32.ofNat report.code
  | .ok options =>
    if options.formula.isEmpty then
      let historyFile ← readFile? options.history
      let start := { invocation with historyFile }.session options
      match ← converse (← IO.getStdin) (← IO.getStdout) start with
      | none => return UInt32.ofNat brokenOff
      | some last => saveHistory options.history historyFile last
    else
      let report := invocation.rollOnce options
      printStep ⟨report.output, report.errors⟩
      return UInt32.ofNat report.code
