/-!
# The ChaCha stream

ChaCha with twelve rounds: a block of sixteen words is made from a key of eight words and a block
counter. A block is held as its four rows, so that a round works on all columns at once and the
diagonals become columns by turning the rows.
-/

namespace DiceNotation.ChaCha

/-- A row of a block. -/
structure Row where
  w0 : UInt32
  w1 : UInt32
  w2 : UInt32
  w3 : UInt32
  deriving Repr, DecidableEq

namespace Row

def toList (r : Row) : List UInt32 := [r.w0, r.w1, r.w2, r.w3]

/-- Combines two rows word by word. -/
def zip (f : UInt32 → UInt32 → UInt32) (a b : Row) : Row :=
  ⟨f a.w0 b.w0, f a.w1 b.w1, f a.w2 b.w2, f a.w3 b.w3⟩

def add (a b : Row) : Row := zip (· + ·) a b

/-- Exclusive or of two rows with every word then turned left by `n` bits. -/
def xorTurn (n : UInt32) (a b : Row) : Row :=
  zip (fun x y => let z := x ^^^ y; (z <<< n) ||| (z >>> (32 - n))) a b

/-- The row turned left by one word. -/
def turn (r : Row) : Row := ⟨r.w1, r.w2, r.w3, r.w0⟩

end Row

/-- Sixteen words as four rows. -/
structure Block where
  a : Row
  b : Row
  c : Row
  d : Row
  deriving Repr, DecidableEq

namespace Block

def toList (s : Block) : List UInt32 := s.a.toList ++ s.b.toList ++ s.c.toList ++ s.d.toList

def add (s t : Block) : Block := ⟨s.a.add t.a, s.b.add t.b, s.c.add t.c, s.d.add t.d⟩

/-- The quarter round on all four columns. -/
def columns (s : Block) : Block :=
  let a := s.a.add s.b
  let d := Row.xorTurn 16 s.d a
  let c := s.c.add d
  let b := Row.xorTurn 12 s.b c
  let a := a.add b
  let d := Row.xorTurn 8 d a
  let c := c.add d
  let b := Row.xorTurn 7 b c
  ⟨a, b, c, d⟩

/-- The quarter round on all four diagonals. -/
def diagonals (s : Block) : Block :=
  let t := columns ⟨s.a, s.b.turn, s.c.turn.turn, s.d.turn.turn.turn⟩
  ⟨t.a, t.b.turn.turn.turn, t.c.turn.turn, t.d.turn⟩

/-- Pairs of rounds, columns before diagonals. -/
def doubleRounds : Nat → Block → Block
  | 0, s => s
  | n + 1, s => doubleRounds n s.columns.diagonals

end Block

structure Key where
  low : Row
  high : Row
  deriving Repr, DecidableEq

/-- The block a key and a counter begin with; the nonce is zero. -/
def Key.initial (key : Key) (counter : UInt64) : Block where
  a := ⟨0x61707865, 0x3320646e, 0x79622d32, 0x6b206574⟩
  b := key.low
  c := key.high
  d := ⟨counter.toUInt32, (counter >>> 32).toUInt32, 0, 0⟩

/-- The block of the stream at a counter. -/
def Key.block (key : Key) (counter : UInt64) : Block :=
  let s := key.initial counter
  s.add (Block.doubleRounds 6 s)

/-- The 64-bit numbers of a word sequence, low word first. -/
def pairs : List UInt32 → List UInt64
  | lo :: hi :: ws => (lo.toUInt64 ||| (hi.toUInt64 <<< 32)) :: pairs ws
  | _ => []

end DiceNotation.ChaCha
