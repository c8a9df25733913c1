import DiceNotation.Text.GraphemeExtend
import DiceNotation.Text.Unprintable

/-!
# Escapes

A quoted text shows every character: quotes, backslashes and the common controls have an escape of
their own, and a character that would not be seen by itself is given by its code point.
-/

namespace DiceNotation

/-- Letters that fill a place in a syllable and are not seen. -/
def fillerRanges : CodeRanges := [(0x115f, 0x1160), (0x3164, 0x3164), (0xffa0, 0xffa0)]

/-- The half-width sound marks: they extend the character before them and have a place of their
own. -/
def isHalfwidthMark (c : Char) : Bool := 0xff9e ≤ c.toNat && c.toNat ≤ 0xff9f

/-- The character is not seen by itself. -/
def isUnseen (c : Char) : Bool :=
  unprintableRanges.contains c || fillerRanges.contains c ||
    (graphemeExtendRanges.contains c && !isHalfwidthMark c)

/-- The escape of a code point, in hexadecimal without leading zeros. -/
def codePointEscape (c : Char) : List Char :=
  ['\x5c', 'u', '\x7b'] ++ Nat.toDigits 16 c.toNat ++ ['\x7d']

/-- The characters that stand for a character inside quotes. -/
def escapeChar (c : Char) : List Char :=
  if c = '\x00' then ['\x5c', '0']
  else if c = '\t' then ['\x5c', 't']
  else if c = '\r' then ['\x5c', 'r']
  else if c = '\n' then ['\x5c', 'n']
  else if c = '\x27' || c = '\x22' || c = '\x5c' then ['\x5c', c]
  else if isUnseen c then codePointEscape c
  else [c]

def quoted (s : String) : String :=
  String.ofList (['\x22'] ++ s.toList.flatMap escapeChar ++ ['\x22'])

end DiceNotation
