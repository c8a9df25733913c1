/-!
# Digit runs

A number in a formula is a run of ASCII digits. The run is kept as written, leading zeros
included, because the text of a term is shown again; its value is an unbounded natural number,
and whether it fits a field is decided by whoever reads it.
-/

namespace DiceNotation

structure Digits where
  chars : List Char
  nonempty : chars ≠ []
  all_digits : ∀ c ∈ chars, c.isDigit = true
  deriving Repr, DecidableEq

namespace Digits

def value (n : Digits) : Nat := Nat.ofDigitChars 10 n.chars 0

/-- The number of the run as a field holds it. -/
def word (n : Digits) : UInt64 := UInt64.ofNat n.value

/-- How many characters, and as digits are ASCII how many bytes, the run takes. -/
def width (n : Digits) : Nat := n.chars.length

/-- The shortest run that denotes a number. -/
def ofNat (n : Nat) : Digits where
  chars := Nat.toDigits 10 n
  nonempty := Nat.toDigits_ne_nil
  all_digits := fun _ hc => Nat.isDigit_of_mem_toDigits (by decide) (by decide) hc

@[simp] theorem value_ofNat (n : Nat) : (ofNat n).value = n := Nat.ofDigitChars_ten_toDigits

theorem ext {m n : Digits} (h : m.chars = n.chars) : m = n := by
  cases m
  cases n
  cases h
  rfl

end Digits

def decimal (n : Nat) : String := n.repr

/-- The decimal text of an integer, with a minus sign in front of a negative one. -/
def decimalInt : Int → String
  | .ofNat n => decimal n
  | .negSucc n => "-" ++ decimal (n + 1)

theorem toList_decimal (n : Nat) : (decimal n).toList = (Digits.ofNat n).chars := by
  simp [decimal, Nat.repr_eq_ofList_toDigits, Digits.ofNat]

end DiceNotation
