import DiceNotation.Results
import DiceNotation.Text.Escape

/-!
# Object notation (RON)

A value is a word, a text, a list, a record with named fields, or a name wrapped around one value.
Lists and records that hold something are spread over lines, one entry each with a trailing comma,
and indented by four spaces a level.
-/

namespace DiceNotation

/-- A value of the notation. -/
inductive Ron where
  /-- A number or a bare name. -/
  | word (text : String)
  | text (text : String)
  | list (items : List Ron)
  /-- Named fields; the record itself may have a name. -/
  | record (name : String) (fields : List (String × Ron))
  /-- A name around a single value. -/
  | wrap (name : String) (value : Ron)

namespace Ron

/-- The space in front of a line at a level. -/
def indent (level : Nat) : String := String.ofList (List.replicate (4 * level) ' ')

mutual

/-- The text of a value whose first line stands at a level. -/
def render (level : Nat) : Ron → String
  | .word s => s
  | .text s => quoted s
  | .list [] => "[]"
  | .list items => "[\n" ++ String.join (itemLines (level + 1) items) ++ indent level ++ "]"
  | .record name fields =>
    name ++ "(\n" ++ String.join (fieldLines (level + 1) fields) ++ indent level ++ ")"
  | .wrap name value => name ++ "(" ++ render level value ++ ")"

def itemLines (level : Nat) : List Ron → List String
  | [] => []
  | v :: vs => (indent level ++ render level v ++ ",\n") :: itemLines level vs

def fieldLines (level : Nat) : List (String × Ron) → List String
  | [] => []
  | (name, v) :: fs =>
    (indent level ++ name ++ ": " ++ render level v ++ ",\n") :: fieldLines level fs

end

def natural (n : UInt64) : Ron := .word (decimal n.toNat)

def integer (n : Int64) : Ron := .word (decimalInt n.toInt)

def truth (b : Bool) : Ron := .word (if b then "true" else "false")

def optional {α : Type} (f : α → Ron) : Option α → Ron
  | none => .word "None"
  | some a => .wrap "Some" (f a)

def struct (fields : List (String × Ron)) : Ron := .record "" fields

end Ron

def Modifier.ron : Modifier → Ron
  | .explode limit => .record "explode" [("limit", .natural limit)]
  | .keepHigh keep => .wrap "keep_high" (.natural keep)
  | .keepLow keep => .wrap "keep_low" (.natural keep)

/-- A term as a record that names its kind first. -/
def Term.ron : Term → Ron
  | .dice d => .struct [
      ("kind", .text "dice"),
      ("raw", .text d.raw),
      ("negative", .truth d.negative),
      ("count", .natural d.count),
      ("faces", .natural d.faces),
      ("modifier", .optional Modifier.ron d.modifier)]
  | .constant c => .struct [
      ("kind", .text "constant"),
      ("raw", .text c.raw),
      ("negative", .truth c.negative),
      ("value", .natural c.value)]

def Critic.name : Critic → String
  | .max => "Max"
  | .min => "Min"
  | .plain => "Not"

def Outcome.ron (o : Outcome) : Ron :=
  .struct [("value", .natural o.value), ("critic", .word o.critic.name)]

def TermResult.ron (r : TermResult) : Ron := .struct [
  ("segment", r.term.ron),
  ("rolls", .optional (fun os => .list (os.map Outcome.ron)) r.rolls),
  ("trace", .optional .text r.trace),
  ("total", .integer r.total)]

def Thresholds.ron (t : Thresholds) : Ron :=
  .struct [("min", .optional .integer t.min), ("max", .optional .integer t.max)]

def BatchResult.ron (r : BatchResult) : Ron := .struct [
  ("results", .list (r.results.map TermResult.ron)),
  ("thresholds", r.thresholds.ron),
  ("grand_total", .integer r.grandTotal),
  ("verdict", .optional (fun v => .word v.text) r.verdict)]

def Results.ron (r : Results) : Ron := .struct [("batches", .list (r.batches.map BatchResult.ron))]

end DiceNotation
