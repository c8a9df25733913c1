import DiceNotation.Console.Environment
import DiceNotation.View
import DiceNotation.Word

/-!
# Options

The words of a command line. Options come first; from the first word that is none, all words are
the formula, so that its signs are not taken for options. What an option leaves open, a setting of
the environment decides.
-/

namespace DiceNotation

/-- What a command line asks for. -/
structure Options where
  debug : Bool
  seed : Option UInt64
  format : Format
  min : Option Int64
  max : Option Int64
  history : String
  formula : List String
  deriving Repr, DecidableEq

/-- Why a command line is not carried out. -/
inductive OptionsFault where
  | displayHelp
  | displayVersion
  | argumentConflict
  | invalidValue
  | valueValidation
  | tooManyValues
  deriving Repr, DecidableEq

def OptionsFault.name : OptionsFault → String
  | .displayHelp => "DisplayHelp"
  | .displayVersion => "DisplayVersion"
  | .argumentConflict => "ArgumentConflict"
  | .invalidValue => "InvalidValue"
  | .valueValidation => "ValueValidation"
  | .tooManyValues => "TooManyValues"

def Format.ofWord? : String → Option Format
  | "compact" => some .compact
  | "verbose" => some .verbose
  | "ron" => some .ron
  | _ => none

namespace Options

def digits? (cs : List Char) : Option Nat :=
  if !cs.isEmpty && cs.all Char.isDigit then some (Nat.ofDigitChars 10 cs 0) else none

def integer? (word : String) : Option Int :=
  match word.toList with
  | '+' :: cs => (digits? cs).map Int.ofNat
  | '-' :: cs => (digits? cs).map fun n => -Int.ofNat n
  | cs => (digits? cs).map Int.ofNat

/-- Reads a 64-bit natural number, which has no minus sign even if it is zero. -/
def uint64? (word : String) : Option UInt64 := do
  let n ← integer? word
  if word.toList.head? = some '-' then none else toUInt64? n

def int64? (word : String) : Option Int64 := (integer? word).bind toInt64?

/-- The options that take a value. -/
inductive Setting where
  | seed
  | format
  | min
  | max
  | history
  deriving Repr, DecidableEq

/-- The options that take none. -/
inductive Switch where
  | debug
  | help
  | version
  deriving Repr, DecidableEq

/-- The options given so far. -/
structure Given where
  debug : Bool
  seed : Option UInt64
  format : Option Format
  min : Option Int64
  max : Option Int64
  history : Option String
  deriving Repr, DecidableEq

def Given.initial : Given := ⟨false, .none, .none, .none, .none, .none⟩

def Given.has (g : Given) : Setting → Bool
  | .seed => g.seed.isSome
  | .format => g.format.isSome
  | .min => g.min.isSome
  | .max => g.max.isSome
  | .history => g.history.isSome

/-- The value an option has, or the fault that it is not one. -/
def valueOr {α : Type} (fault : OptionsFault) : Option α → Except OptionsFault α
  | some a => .ok a
  | none => .error fault

def Given.set (g : Given) (setting : Setting) (value : String) : Except OptionsFault Given := do
  match setting with
  | .seed => return { g with seed := some (← valueOr .valueValidation (uint64? value)) }
  | .format => return { g with format := some (← valueOr .invalidValue (Format.ofWord? value)) }
  | .min => return { g with min := some (← valueOr .valueValidation (int64? value)) }
  | .max => return { g with max := some (← valueOr .valueValidation (int64? value)) }
  | .history =>
    if value.isEmpty then throw .invalidValue else return { g with history := some value }

/-- Gives an option its value from the command line, where it may stand only once. -/
def Given.setOnce (g : Given) (setting : Setting) (value : String) : Except OptionsFault Given :=
  if g.has setting then .error .argumentConflict else g.set setting value

def Given.turnOn (g : Given) : Switch → Except OptionsFault Given
  | .debug => if g.debug then .error .argumentConflict else .ok { g with debug := true }
  | .help => .error .displayHelp
  | .version => .error .displayVersion

/-- An option that has been named, and the value that came for it. It is settled when the next
option or the formula is reached. -/
structure Pending where
  setting : Setting
  value : Option String
  deriving Repr, DecidableEq

/-- Settles what is pending; an option without a value is a fault. -/
def Given.settle (g : Given) : Option Pending → Except OptionsFault Given
  | none => .ok g
  | some ⟨_, none⟩ => .error .invalidValue
  | some ⟨setting, some value⟩ => g.setOnce setting value

abbrev Flag := Setting ⊕ Switch

def Flag.ofLetter? : Char → Option Flag
  | 'd' => some (.inr .debug)
  | 'f' => some (.inl .format)
  | 'h' => some (.inr .help)
  | 'V' => some (.inr .version)
  | _ => none

def Flag.ofName? : String → Option Flag
  | "debug" => some (.inr .debug)
  | "seed" => some (.inl .seed)
  | "format" => some (.inl .format)
  | "min" => some (.inl .min)
  | "max" => some (.inl .max)
  | "history" => some (.inl .history)
  | "help" => some (.inr .help)
  | "version" => some (.inr .version)
  | _ => none

/-- What a word before the formula is. -/
inductive Word where
  /-- The word `--`. -/
  | separator
  /-- A long name, and the value after an equals sign. -/
  | long (flag : Flag) (value : Option String)
  /-- One or more letters. -/
  | letters (letters : List Char)
  /-- Neither an option nor a switch. -/
  | plain
  deriving Repr, DecidableEq

/-- Tells what a word is. A word with a letter or a name that is no flag is a plain one. -/
def Word.ofChars : List Char → Word
  | ['-', '-'] => .separator
  | '-' :: '-' :: cs =>
    let name := cs.takeWhile (· ≠ '=')
    let value := match cs.dropWhile (· ≠ '=') with
      | [] => none
      | _ :: value => some (String.ofList value)
    match Flag.ofName? (String.ofList name) with
    | some flag => .long flag value
    | none => .plain
  | '-' :: c :: cs =>
    if (c :: cs).all fun l => (Flag.ofLetter? l).isSome then .letters (c :: cs) else .plain
  | _ => .plain

/-- Reads the letters of a word; those after an option's letter are its value. -/
def readLetters (g : Given) (pending : Option Pending) :
    List Char → Except OptionsFault (Given × Option Pending)
  | [] => .ok (g, pending)
  | c :: cs =>
    match Flag.ofLetter? c with
    | some (.inr switch) => do
      let g ← g.settle pending
      let g ← g.turnOn switch
      readLetters g none cs
    | some (.inl setting) => do
      let g ← g.settle pending
      if cs.isEmpty then return (g, some ⟨setting, none⟩)
      else return (← g.setOnce setting (String.ofList cs), none)
    | none => .ok (g, pending)

/-- Reads a long name. A value that a switch cannot take is noticed before anything pending is. -/
def readLong (g : Given) (pending : Option Pending) :
    Flag → Option String → Except OptionsFault (Given × Option Pending)
  | .inr _, some _ => .error .tooManyValues
  | .inr switch, none => do
    let g ← g.settle pending
    return (← g.turnOn switch, none)
  | .inl setting, some value => do
    let g ← g.settle pending
    return (← g.setOnce setting value, none)
  | .inl setting, none => do
    let g ← g.settle pending
    return (g, some ⟨setting, none⟩)

/-- Reads the words of a command line: the options given, and the formula's words. -/
def readWords (g : Given) (pending : Option Pending) :
    List String → Except OptionsFault (Given × List String)
  | [] => do return (← g.settle pending, [])
  | w :: ws =>
    match Word.ofChars w.toList, pending with
    | .separator, _ => do return (← g.settle pending, ws)
    | .long flag value, _ => do
      let (g, pending) ← readLong g pending flag value
      readWords g pending ws
    | .letters cs, _ => do
      let (g, pending) ← readLetters g pending cs
      readWords g pending ws
    | .plain, some ⟨setting, none⟩ => readWords g (some ⟨setting, some w⟩) ws
    | .plain, _ => do return (← g.settle pending, w :: ws)

/-- Takes an option from the environment if the command line does not give it. -/
def Given.complete (g : Given) (env : Environment) (setting : Setting) (name : String) :
    Except OptionsFault Given :=
  if g.has setting then .ok g
  else match env.get? name with
    | some value => g.set setting value
    | none => .ok g

def read (words : List String) (env : Environment) : Except OptionsFault Options := do
  let (g, formula) ← readWords .initial none words
  let g ← g.complete env .seed "REALM_ROLL_SEED"
  let g ← g.complete env .format "REALM_ROLL_FORMAT"
  let g ← g.complete env .history "REALM_REPL_HISTORY"
  return {
    debug := g.debug
    seed := g.seed
    format := g.format.getD .verbose
    min := g.min
    max := g.max
    history := g.history.getD "history"
    formula := formula }

end Options

end DiceNotation
