import DiceNotation.Word

/-!
# Serialized values

The data model of the serialized form: null, truth values, numbers, texts, lists and objects with
named fields. Only integers are numbers to the readers below; any other number is kept apart so
that it is refused wherever it stands.
-/

namespace DiceNotation

inductive Value where
  | null
  | bool (value : Bool)
  | int (value : Int)
  /-- A number with a fraction or an exponent. -/
  | fraction
  | text (value : String)
  | list (items : List Value)
  | object (fields : List (String × Value))

namespace Value

def ofUInt64 (n : UInt64) : Value := .int n.toNat

def ofInt64 (n : Int64) : Value := .int n.toInt

/-- A value that may be missing: null stands for none. -/
def ofOption {α : Type} (f : α → Value) : Option α → Value
  | none => .null
  | some a => f a

def ofList {α : Type} (f : α → Value) (items : List α) : Value := .list (items.map f)

def bool? : Value → Option Bool
  | .bool b => some b
  | _ => none

def uint64? : Value → Option UInt64
  | .int n => toUInt64? n
  | _ => none

def int64? : Value → Option Int64
  | .int n => toInt64? n
  | _ => none

def text? : Value → Option String
  | .text s => some s
  | _ => none

def list? {α : Type} (read : Value → Option α) : Value → Option (List α)
  | .list items => items.mapM read
  | _ => none

/-- The value of a field; of several with one name the last counts. -/
def lookup (name : String) : List (String × Value) → Option Value
  | [] => none
  | (key, v) :: fields => (lookup name fields).or (if key = name then some v else none)

/-- The values of a record's fields, by their names in an object or by their places in a list,
which then holds exactly these fields. An object may leave fields out and hold others. -/
def fields? (names : List String) : Value → Option (List (Option Value))
  | .object fields => some (names.map (lookup · fields))
  | .list items => if items.length = names.length then some (items.map some) else none
  | _ => none

/-- Reads a field that must be there. -/
def required {α : Type} (read : Value → Option α) (field : Option Value) : Option α :=
  field.bind read

/-- Reads a field that may be left out or null. -/
def optional {α : Type} (read : Value → Option α) : Option Value → Option (Option α)
  | none | some .null => some none
  | some v => (read v).map some

/-- Reads a name, which stands as a text or as the only field of an object without content. -/
def name? : Value → Option String
  | .text s => some s
  | .object [(s, .null)] => some s
  | _ => none

end Value

end DiceNotation
