import DiceNotation.Ascending
import DiceNotation.View.Ron

/-!
# Views

Results are shown as a line for each batch, as a block for each batch with a line for each term,
or as their bare value. The first two repeat the formula as it was given and are marked up in
Markdown.
-/

namespace DiceNotation

inductive Format where
  | compact
  | verbose
  | ron
  deriving Repr, DecidableEq

/-- The sign that a mark is shown by. -/
def Critic.sign : Critic → String
  | .max => "🤩"
  | .min => "🥶"
  | .plain => ""

namespace BatchResult

/-- The marks of the critical draws of a batch. -/
def critics (r : BatchResult) : List Critic := r.results.flatMap TermResult.critics

/-- The signs of these marks in ascending order, which puts the highest face first. -/
def signs (r : BatchResult) : List String := Ascending.ofList (r.critics.map Critic.sign)

def marks (r : BatchResult) : String :=
  if r.signs.isEmpty then "" else " " ++ String.join r.signs

def compact (formula : String) (r : BatchResult) : String :=
  "`" ++ formula ++ "` | " ++ " * ".intercalate r.traces ++ " | " ++ r.text ++ r.marks

/-- The heading of a batch, numbered if there are several. -/
def heading (formula : String) (index count : Nat) : String :=
  "**Roll** `" ++ formula ++ "`" ++
    (if 1 < count then " (" ++ decimal (index + 1) ++ "/" ++ decimal count ++ ")" else "") ++ "\n"

def verbose (formula : String) (index count : Nat) (r : BatchResult) : String :=
  heading formula index count ++
    String.join (r.results.map termLine) ++
    "**Total** " ++ totalsText r.totals r.grandTotal ++ "\n" ++
    match r.verdict with
    | some v => "**Verdict** *" ++ v.text ++ "*\n"
    | none => ""
where
  termLine (r : TermResult) : String :=
    match r.term with
    | .dice d => "* `" ++ d.raw ++ "` " ++ r.trace.getD "" ++ "\n"
    | .constant c => "* `" ++ c.raw ++ "`\n"

end BatchResult

namespace Results

def compact (formula : String) (r : Results) : String :=
  "\n".intercalate (r.batches.map (·.compact formula))

def verbose (formula : String) (r : Results) : String :=
  "\n".intercalate
    (r.batches.mapIdx fun index b => b.verbose formula index r.batches.length)

def render (format : Format) (formula : String) (r : Results) : String :=
  match format with
  | .compact => r.compact formula
  | .verbose => r.verbose formula
  | .ron => r.ron.render 0

end Results

end DiceNotation
