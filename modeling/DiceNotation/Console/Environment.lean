import DiceNotation.Text.Alphanumeric
import DiceNotation.Text.Blank

/-!
# Environment

Settings by name, and the file that may add to them. The file holds an assignment a line; values
can be quoted and can refer to settings made before. A name that is set already keeps its value,
and the first line that cannot be read ends the file.
-/

namespace DiceNotation

/-- Settings by name. -/
abbrev Environment := List (String × String)

namespace Environment

/-- The value of a name, if it is set: what is left of a setting, written as name, equals sign and
value, after the name and an equals sign. -/
def get? (env : Environment) (name : String) : Option String :=
  env.findSome? fun setting =>
    let written := setting.1.toList ++ '=' :: setting.2.toList
    let start := name.toList ++ ['=']
    if start.isPrefixOf written then some (String.ofList (written.drop start.length)) else none

/-- Sets a name that is not set yet; `none` if the value cannot be, for it holds a null
character. -/
def supply? (env : Environment) (name value : String) : Option Environment :=
  if (env.get? name).isSome then some env
  else if value.toList.contains '\x00' then none
  else some (env ++ [(name, value)])

def reference (env : Environment) (name : List Char) : List Char :=
  ((env.get? (String.ofList name)).getD "").toList

def isNameChar (c : Char) : Bool := alphanumericRanges.contains c

/-- Where the reading of a value is. -/
inductive ValueState where
  /-- In the value itself. -/
  | text
  /-- After a backslash. -/
  | escaped
  /-- Between single quotes. -/
  | literal
  /-- In the name after a `$`. -/
  | name (name : List Char)
  /-- In the braces after a `$`. -/
  | braces (name : List Char)
  /-- After a blank that is not quoted, where only a comment may follow. -/
  | ended

/-- Reads a value. Between double quotes (`isQuoted`) blanks and single quotes are plain
characters, escapes and references are not. The character that ends a reference's name is a plain
one, whatever it is. -/
def readValue (env : Environment) (isQuoted : Bool) : ValueState → List Char → Option (List Char)
  | .literal, [] | .braces _, [] => none
  | .name name, [] => if isQuoted then none else some (env.reference name)
  | .text, [] | .escaped, [] | .ended, [] => if isQuoted then none else some []
  | .ended, c :: cs =>
    if c = ' ' || c = '\t' then readValue env isQuoted .ended cs
    else if c = '#' then some []
    else none
  | .escaped, c :: cs =>
    if c = 'n' then (readValue env isQuoted .text cs).map ('\n' :: ·)
    else if c = '\x5c' || c = '\x27' || c = '\x22' || c = '$' || c = ' ' then
      (readValue env isQuoted .text cs).map (c :: ·)
    else none
  | .literal, c :: cs =>
    if c = '\x27' then readValue env isQuoted .text cs
    else (readValue env isQuoted .literal cs).map (c :: ·)
  | .name name, c :: cs =>
    if isNameChar c then readValue env isQuoted (.name (name ++ [c])) cs
    else if c = '\x7b' && name.isEmpty then readValue env isQuoted (.braces []) cs
    else if c = '$' then
      (readValue env isQuoted (.name []) cs).map (env.reference name ++ ·)
    else (readValue env isQuoted .text cs).map (env.reference name ++ [c] ++ ·)
  | .braces name, c :: cs =>
    if c = '\x7d' then (readValue env isQuoted .text cs).map (env.reference name ++ ·)
    else readValue env isQuoted (.braces (name ++ [c])) cs
  | .text, c :: cs =>
    if c = '$' then readValue env isQuoted (.name []) cs
    else if c = '\x22' then readValue env (!isQuoted) .text cs
    else if c = '\x5c' then readValue env isQuoted .escaped cs
    else if isQuoted then (readValue env isQuoted .text cs).map (c :: ·)
    else if c = '\x27' then readValue env isQuoted .literal cs
    else if c = ' ' || c = '\t' then readValue env isQuoted .ended cs
    else (readValue env isQuoted .text cs).map (c :: ·)

def isKeyStart (c : Char) : Bool := c.isAlpha || c = '_'

def isKeyChar (c : Char) : Bool := c.isAlphanum || c = '_' || c = '.'

def readKey : List Char → Option (List Char × List Char)
  | [] => none
  | c :: cs =>
    if isKeyStart c then
      let line := c :: cs
      some (line.takeWhile isKeyChar, (line.dropWhile isKeyChar).dropWhile isBlank)
    else none

/-- Reads a setting's name up to the equals sign; the word `export` may stand in front. -/
def readAssignment (line : List Char) : Option (List Char × List Char) := do
  match ← readKey line with
  | (key, '=' :: value) => return (key, value)
  | (key, rest) =>
    if key = "export".toList then
      match ← readKey rest with
      | (key, '=' :: value) => return (key, value)
      | _ => none
    else none

/-- Reads a line: `none` if it is malformed, no setting if it is blank or a comment. -/
def readLine (env : Environment) (line : List Char) : Option (Option (String × String)) := do
  match trim line with
  | [] | '#' :: _ => return none
  | line =>
    let (key, rest) ← readAssignment line
    let value ←
      match rest.dropWhile isBlank with
      | [] | '#' :: _ => some []
      | rest => readValue env false .text rest
    return some (String.ofList key, String.ofList value)

/-- Adds the settings of a file's lines; `none` if one of them cannot be made. -/
def supplyLines? (env : Environment) : List (List Char) → Option Environment
  | [] => some env
  | line :: lines =>
    match env.readLine line with
    | none => some env
    | some none => supplyLines? env lines
    | some (some (name, value)) => (env.supply? name value).bind fun env => supplyLines? env lines

def supplyFile? (env : Environment) (text : String) : Option Environment :=
  env.supplyLines? (text.toList.splitOn '\n')

/-- The names that a file may set or refer to, among others. -/
def mentioned (text : String) : List String :=
  (words isKeyChar text.toList ++ words isNameChar text.toList).map String.ofList
where
  /-- The pieces of a text between characters of other kinds. -/
  words (isWordChar : Char → Bool) (cs : List Char) : List (List Char) :=
    (cs.splitOnP fun c => !isWordChar c).filter (· ≠ [])

end Environment

end DiceNotation
