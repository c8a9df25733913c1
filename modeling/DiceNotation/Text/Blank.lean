/-!
# White space

The characters with the Unicode property White_Space, and the two ways a text is freed of them:
a formula is read without any, a line is rolled without those at its ends.
-/

namespace DiceNotation

/-- The property White_Space of the Unicode character database. -/
def isBlank (c : Char) : Bool :=
  let n := c.toNat
  (9 ≤ n && n ≤ 13) || n == 0x20 || n == 0x85 || n == 0xA0 || n == 0x1680 ||
    (0x2000 ≤ n && n ≤ 0x200A) || n == 0x2028 || n == 0x2029 || n == 0x202F || n == 0x205F ||
    n == 0x3000

/-- A text without its white space. -/
def strip (cs : List Char) : List Char := cs.filter fun c => !isBlank c

/-- A text without the white space at its end. -/
def trimEnd (cs : List Char) : List Char := (cs.reverse.dropWhile isBlank).reverse

/-- A text without the white space at its two ends. -/
def trim (cs : List Char) : List Char := trimEnd (cs.dropWhile isBlank)

@[simp] theorem strip_append (cs ds : List Char) : strip (cs ++ ds) = strip cs ++ strip ds := by
  simp [strip]

end DiceNotation
