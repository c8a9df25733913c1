import DiceNotation.Formula.Parse
import DiceNotation.Proofs.Scanning

/-! # Reading formulas

Tokens are read from left to right by an automaton whose state is the part of the
formula read so far. A token that cannot follow stops the reading there, and the
state says which rules fail at that place.
-/

namespace DiceNotation

/-- Where a term begins: at the start of the formula, or after a sign. -/
inductive Opening where
  | start
  | signed (before : Formula) (sign : Sign)
  deriving Repr, DecidableEq

/-- A term that may still get its repetition suffix, with all that stands before it. -/
inductive Stem where
  | lead (dice : DiceText)
  | signed (before : Formula) (sign : Sign) (operand : Operand)
  deriving Repr, DecidableEq

def Opening.dice : Opening → DiceText → Stem
  | .start, d => .lead d
  | .signed F s, d => .signed F s (.dice d)

def Opening.tokens : Opening → List Token
  | .start => []
  | .signed F s => F.tokens ++ [.sign s]

/-- The formula up to the end of the term. -/
def Stem.close : Stem → Option Digits → Formula
  | .lead d, times => ⟨d, times, []⟩
  | .signed F s operand, times => F.push ⟨s, operand, times⟩

def Stem.tokens : Stem → List Token
  | .lead d => d.tokens
  | .signed F s operand => F.tokens ++ .sign s :: operand.tokens

@[simp] theorem Opening.tokens_dice (o : Opening) (d : DiceText) :
    (o.dice d).tokens = o.tokens ++ d.tokens := by
  cases o <;> simp [Opening.dice, Stem.tokens, Opening.tokens, Operand.tokens]

@[simp] theorem Stem.tokens_close (s : Stem) (times : Option Digits) :
    (s.close times).tokens = s.tokens ++ timesTokens times := by
  cases s <;> simp [Stem.close, Stem.tokens, Formula.tokens_lead, Summand.tokens]

/-- The state of a reading: what has been read, and how far into a term it goes. -/
inductive Reading where
  /-- A term is due. -/
  | opened (opening : Opening)
  /-- A digit run at the beginning of a term: a dice count, or a constant. -/
  | digits (opening : Opening) (digits : Digits)
  /-- The `d` of a dice term. -/
  | die (opening : Opening) (count : Option Digits)
  /-- A dice term, complete as it stands. -/
  | dice (opening : Opening) (dice : DiceText)
  /-- The `x` of a suffix. -/
  | times (stem : Stem)
  /-- A term with its suffix. -/
  | closed (formula : Formula)
  deriving Repr, DecidableEq

namespace Reading

/-- The formula read, if it may end here. -/
def formula? : Reading → Option Formula
  | .digits (.signed F s) n => some (F.push ⟨s, .constant n, none⟩)
  | .dice opening d => some ((opening.dice d).close none)
  | .closed F => some F
  | _ => none

/-- Reads one token, if it can follow. -/
def step : Reading → Token → Option Reading
  | .opened opening, .number n => some (.digits opening n)
  | .opened opening, .die => some (.die opening none)
  | .digits opening n, .die => some (.die opening (some n))
  | .digits (.signed F s) n, .times => some (.times (.signed F s (.constant n)))
  | .die opening count, .number n => some (.dice opening ⟨count, n, none⟩)
  | .dice opening ⟨count, faces, none⟩, .mark m =>
    some (.dice opening ⟨count, faces, some ⟨m, none⟩⟩)
  | .dice opening ⟨count, faces, some ⟨m, none⟩⟩, .number n =>
    some (.dice opening ⟨count, faces, some ⟨m, some n⟩⟩)
  | .dice opening d, .times => some (.times (opening.dice d))
  | .times stem, .number n => some (.closed (stem.close (some n)))
  | r, .sign s => r.formula?.map fun F => .opened (.signed F s)
  | _, _ => none

/-- Reads as many tokens as can follow, and returns those left. -/
def run (r : Reading) : List Token → Reading × List Token
  | [] => (r, [])
  | t :: ts =>
    match r.step t with
    | some r' => run r' ts
    | none => (r, t :: ts)

/-- The tokens read so far. -/
def tokens : Reading → List Token
  | .opened opening => opening.tokens
  | .digits opening n => opening.tokens ++ [.number n]
  | .die opening count => opening.tokens ++ numberTokens count ++ [.die]
  | .dice opening d => opening.tokens ++ d.tokens
  | .times stem => stem.tokens ++ [.times]
  | .closed F => F.tokens

theorem tokens_formula? {r : Reading} {F : Formula} (h : r.formula? = some F) :
    F.tokens = r.tokens := by
  cases r with
  | opened | die | times => simp [formula?] at h
  | digits opening n =>
    cases opening with
    | start => simp [formula?] at h
    | signed F s =>
      obtain rfl := Option.some.inj h
      simp [tokens, Opening.tokens, Summand.tokens, Operand.tokens, timesTokens]
  | dice opening d =>
    obtain rfl := Option.some.inj h
    simp [tokens, timesTokens]
  | closed F =>
    obtain rfl := Option.some.inj h
    rfl

theorem tokens_step {r r' : Reading} {t : Token} (h : r.step t = some r') :
    r'.tokens = r.tokens ++ [t] := by
  unfold step at h
  split at h
  case h_8 =>
    obtain rfl := Option.some.inj h
    simp [tokens]
  case h_10 =>
    obtain ⟨F, hF, rfl⟩ := Option.map_eq_some_iff.1 h
    simp [tokens, Opening.tokens, tokens_formula? hF]
  case h_11 => simp at h
  all_goals
    obtain rfl := Option.some.inj h
    simp [tokens, Opening.tokens, Stem.tokens, Operand.tokens, DiceText.tokens, modifierTokens,
      ModifierText.tokens, numberTokens, timesTokens]

/-- What a run has read and what it leaves make up what it was given. -/
theorem tokens_run (r : Reading) (ts : List Token) :
    (r.run ts).1.tokens ++ (r.run ts).2 = r.tokens ++ ts := by
  induction ts generalizing r with
  | nil => rfl
  | cons t ts ih =>
    unfold run
    split
    · rename_i r' h
      rw [ih, tokens_step h]
      simp
    · rfl

/-- The rules that fail behind what is read, in the order of trying, if the text goes on in a way
that it cannot. -/
def failed : Reading → List Rule
  | .opened .start => [.count]
  | .opened (.signed ..) => [.count, .constant]
  | .digits .start _ => [.dice]
  | .digits (.signed ..) _ => [.batch, .modTerm, .finish]
  | .die .. => [.faces]
  | .dice _ ⟨_, _, none⟩ => [.explode, .keepHigh, .keepLow, .batch, .modTerm, .finish]
  | .dice _ ⟨_, _, some ⟨_, none⟩⟩ => [.number, .batch, .modTerm, .finish]
  | .dice _ ⟨_, _, some ⟨_, some _⟩⟩ => [.batch, .modTerm, .finish]
  | .times _ => [.number]
  | .closed _ => [.modTerm, .finish]

def attempts (r : Reading) : Attempts := ⟨(Token.text r.tokens).length, r.failed⟩

/-- What may follow a reading. -/
def expected (r : Reading) : List Expectation := r.attempts.expected

/-- The error of a text whose reading stopped in front of `rest`. -/
def error (r : Reading) (rest : List Char) : ParseError where
  fault := if rest.isEmpty then .unexpectedEnd r.expected else .unexpectedInput r.expected
  fragment := String.ofList rest
  position := (Token.text r.tokens).length

end Reading

/-- The formula that the tokens of a text are read as. Leading digits that no `d` follows count as
unread. -/
def Formula.readTokens (cs : List Char) : Except ParseError Formula :=
  let (ts, rest) := Token.scan cs
  let (r, unread) := (Reading.opened .start).run ts
  match r, r.formula?, unread, rest with
  | _, some F, [], [] => .ok F
  | .digits .start _, _, _, _ => .error ((Reading.opened .start).error cs)
  | _, _, _, _ => .error (r.error (Token.text unread ++ rest))

end DiceNotation
