import DiceNotation.Digits

/-!
# Tokens

A formula without its white space is a sequence of digit runs and the marks
`d`, `!`, `kh`, `kl`, `x`, `+` and `-`.
-/

namespace DiceNotation

/-- Whether a term is added or subtracted. -/
inductive Sign where
  | plus
  | minus
  deriving Repr, DecidableEq

def Sign.char : Sign → Char
  | .plus => '+'
  | .minus => '-'

/-- What opens a dice modifier. -/
inductive Mark where
  | explode
  | keepHigh
  | keepLow
  deriving Repr, DecidableEq

def Mark.chars : Mark → List Char
  | .explode => ['!']
  | .keepHigh => ['k', 'h']
  | .keepLow => ['k', 'l']

inductive Token where
  | number (digits : Digits)
  | die
  | mark (mark : Mark)
  | times
  | sign (sign : Sign)
  deriving Repr, DecidableEq

namespace Token

def chars : Token → List Char
  | .number n => n.chars
  | .die => ['d']
  | .mark m => m.chars
  | .times => ['x']
  | .sign s => [s.char]

def text (ts : List Token) : List Char := ts.flatMap chars

@[simp] theorem text_nil : text [] = [] := rfl

@[simp] theorem text_cons (t : Token) (ts : List Token) : text (t :: ts) = t.chars ++ text ts := rfl

@[simp] theorem text_append (ts us : List Token) : text (ts ++ us) = text ts ++ text us := by
  simp [text]

end Token

end DiceNotation
