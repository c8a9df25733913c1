import DiceNotation.Batch
import DiceNotation.Results
import DiceNotation.Serial.Value

/-!
# The serialized form

Each type of the model has a writer to and a reader from serialized values. Reading checks names,
types and ranges only; whether a total is the sum of its rolls, say, is not looked at.
-/

namespace DiceNotation

/-- Writes a modifier as an object of one field. -/
def Modifier.toValue : Modifier → Value
  | .explode limit => .object [("explode", .object [("limit", .ofUInt64 limit)])]
  | .keepHigh keep => .object [("keep_high", .ofUInt64 keep)]
  | .keepLow keep => .object [("keep_low", .ofUInt64 keep)]

/-- Reads a modifier as it stands within a term. -/
def Modifier.ofValue? : Value → Option Modifier
  | .object [("explode", content)] =>
    match content.fields? ["limit"] with
    | some [limit] => (Value.required Value.uint64? limit).map .explode
    | _ => none
  | .object [("keep_high", keep)] => keep.uint64?.map .keepHigh
  | .object [("keep_low", keep)] => keep.uint64?.map .keepLow
  | _ => none

/-- Reads a modifier that stands alone: there a limit has to be given by name. -/
def Modifier.ofSingle? : Value → Option Modifier
  | .object [("explode", .list _)] => none
  | v => Modifier.ofValue? v

/-- The fields of a dice roll, in the order of their places. -/
def DiceRoll.fieldNames : List String := ["raw", "negative", "count", "faces", "modifier"]

def DiceRoll.ofFields? : List (Option Value) → Option DiceRoll
  | [raw, negative, count, faces, modifier] => do
    let raw ← Value.required Value.text? raw
    let negative ← Value.required Value.bool? negative
    let count ← Value.required Value.uint64? count
    let faces ← Value.required Value.uint64? faces
    let modifier ← Value.optional Modifier.ofValue? modifier
    return ⟨raw, negative, count, faces, modifier⟩
  | _ => none

def Constant.fieldNames : List String := ["raw", "negative", "value"]

def Constant.ofFields? : List (Option Value) → Option Constant
  | [raw, negative, value] => do
    let raw ← Value.required Value.text? raw
    let negative ← Value.required Value.bool? negative
    let value ← Value.required Value.uint64? value
    return ⟨raw, negative, value⟩
  | _ => none

/-- Writes a term as an object that names its kind. -/
def Term.toValue : Term → Value
  | .dice d => .object [
      ("kind", .text "dice"),
      ("raw", .text d.raw),
      ("negative", .bool d.negative),
      ("count", .ofUInt64 d.count),
      ("faces", .ofUInt64 d.faces),
      ("modifier", .ofOption Modifier.toValue d.modifier)]
  | .constant c => .object [
      ("kind", .text "constant"),
      ("raw", .text c.raw),
      ("negative", .bool c.negative),
      ("value", .ofUInt64 c.value)]

/-- Reads a term of a kind from a value that holds its fields. -/
def Term.ofContent? (kind : String) (content : Value) : Option Term :=
  if kind = "dice" then
    ((content.fields? DiceRoll.fieldNames).bind DiceRoll.ofFields?).map .dice
  else if kind = "constant" then
    ((content.fields? Constant.fieldNames).bind Constant.ofFields?).map .constant
  else none

/-- Reads a term: an object with its kind among the fields, or a list with its kind in front. -/
def Term.ofValue? : Value → Option Term
  | .object fields => do
    let kind ← Value.required Value.text? (Value.lookup "kind" fields)
    Term.ofContent? kind (.object fields)
  | .list (.text kind :: items) => Term.ofContent? kind (.list items)
  | _ => none

def Batch.toValue (b : Batch) : Value := .ofList Term.toValue b.terms

/-- Why a value is not a batch. -/
inductive BatchFault where
  /-- It is no list of terms. -/
  | malformed
  /-- Its first term is missing or no dice roll. -/
  | noLead
  deriving Repr, DecidableEq

def BatchFault.message : BatchFault → String
  | .malformed => "malformed batch"
  | .noLead => "a batch must open with a dice term"

/-- Reads a batch; all its terms are read before the first of them is looked at. -/
def Batch.ofValue (v : Value) : Except BatchFault Batch :=
  match v.list? Term.ofValue? with
  | none => .error .malformed
  | some terms =>
    match Batch.ofTerms? terms with
    | none => .error .noLead
    | some b => .ok b

def Critic.toValue : Critic → Value
  | .max => .text "Max"
  | .min => .text "Min"
  | .plain => .text "Not"

def Critic.ofValue? (v : Value) : Option Critic :=
  match v.name? with
  | some "Max" => some .max
  | some "Min" => some .min
  | some "Not" => some .plain
  | _ => none

def Outcome.toValue (o : Outcome) : Value :=
  .object [("value", .ofUInt64 o.value), ("critic", o.critic.toValue)]

/-- Reads an outcome; the mark is taken as it is. -/
def Outcome.ofValue? (v : Value) : Option Outcome :=
  match v.fields? ["value", "critic"] with
  | some [value, critic] => do
    let value ← Value.required Value.uint64? value
    let critic ← Value.required Critic.ofValue? critic
    return ⟨value, critic⟩
  | _ => none

def TermResult.toValue (r : TermResult) : Value := .object [
  ("segment", r.term.toValue),
  ("rolls", .ofOption (.ofList Outcome.toValue) r.rolls),
  ("trace", .ofOption .text r.trace),
  ("total", .ofInt64 r.total)]

def TermResult.ofValue? (v : Value) : Option TermResult :=
  match v.fields? ["segment", "rolls", "trace", "total"] with
  | some [term, rolls, trace, total] => do
    let term ← Value.required Term.ofValue? term
    let rolls ← Value.optional (Value.list? Outcome.ofValue?) rolls
    let trace ← Value.optional Value.text? trace
    let total ← Value.required Value.int64? total
    return ⟨term, rolls, trace, total⟩
  | _ => none

def Thresholds.toValue (t : Thresholds) : Value :=
  .object [("min", .ofOption .ofInt64 t.min), ("max", .ofOption .ofInt64 t.max)]

def Thresholds.ofValue? (v : Value) : Option Thresholds :=
  match v.fields? ["min", "max"] with
  | some [min, max] => do
    let min ← Value.optional Value.int64? min
    let max ← Value.optional Value.int64? max
    return ⟨min, max⟩
  | _ => none

def Verdict.toValue (v : Verdict) : Value := .text v.text

def Verdict.ofValue? (v : Value) : Option Verdict :=
  match v.name? with
  | some "success" => some .success
  | some "failure" => some .failure
  | _ => none

def BatchResult.toValue (r : BatchResult) : Value := .object [
  ("results", .ofList TermResult.toValue r.results),
  ("thresholds", r.thresholds.toValue),
  ("grand_total", .ofInt64 r.grandTotal),
  ("verdict", .ofOption Verdict.toValue r.verdict)]

def BatchResult.ofValue? (v : Value) : Option BatchResult :=
  match v.fields? ["results", "thresholds", "grand_total", "verdict"] with
  | some [results, thresholds, grandTotal, verdict] => do
    let results ← Value.required (Value.list? TermResult.ofValue?) results
    let thresholds ← Value.required Thresholds.ofValue? thresholds
    let grandTotal ← Value.required Value.int64? grandTotal
    let verdict ← Value.optional Verdict.ofValue? verdict
    return ⟨results, thresholds, grandTotal, verdict⟩
  | _ => none

def Results.toValue (r : Results) : Value :=
  .object [("batches", .ofList BatchResult.toValue r.batches)]

def Results.ofValue? (v : Value) : Option Results :=
  match v.fields? ["batches"] with
  | some [batches] => (Value.required (Value.list? BatchResult.ofValue?) batches).map Results.mk
  | _ => none

end DiceNotation
