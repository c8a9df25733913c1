import DiceNotation.Text.Cluster

/-!
# Lines of input

Input is a sequence of bytes. A line ends after a line feed or at the end of the input, and is read
if it is valid UTF-8; the first line that is not ends the input. A backspace in a line takes back
the cluster before it.
-/

namespace DiceNotation.Line

/-- The bytes of the first line, its line feed included, and those after it. -/
def split : List UInt8 → List UInt8 × List UInt8
  | [] => ([], [])
  | b :: bs =>
    if b = 10 then ([b], bs)
    else
      let (line, rest) := split bs
      (b :: line, rest)

theorem length_split (bs : List UInt8) :
    (split bs).1.length + (split bs).2.length = bs.length := by
  induction bs with
  | nil => rfl
  | cons b bs ih =>
    unfold split
    split
    · simp
      omega
    · simp only [List.length_cons]
      omega

/-- A line of a non-empty input is not empty, so the rest is shorter. -/
theorem length_split_snd_lt (b : UInt8) (bs : List UInt8) :
    (split (b :: bs)).2.length < (b :: bs).length := by
  have whole := length_split (b :: bs)
  have pos : 0 < (split (b :: bs)).1.length := by
    unfold split
    split <;> simp
  omega

def decode? (bytes : List UInt8) : Option (List Char) :=
  (String.fromUTF8? ⟨bytes.toArray⟩).map String.toList

/-- The lines of an input, up to the first one that is not UTF-8. -/
def ofBytes (bytes : List UInt8) : List (List Char) :=
  match bytes with
  | [] => []
  | b :: bs =>
    match decode? (split (b :: bs)).1 with
    | some line => line :: ofBytes (split (b :: bs)).2
    | none => []
termination_by bytes.length
decreasing_by exact length_split_snd_lt b bs

/-- A line without its line break. -/
def chomp (line : List Char) : List Char :=
  if line.getLast? = some '\n' then
    let line := line.dropLast
    if line.getLast? = some '\r' then line.dropLast else line
  else line

def byteCount (cs : List Char) : Nat := (String.ofList cs).utf8ByteSize

/-- Takes a number of bytes off the end of a reversed text; `none` if that would cut a character
in two. -/
def dropBytes? : Nat → List Char → Option (List Char)
  | 0, cs => some cs
  | _ + 1, [] => none
  | n + 1, c :: cs => if c.utf8Size ≤ n + 1 then dropBytes? (n + 1 - c.utf8Size) cs else none

/-- Carries out the backspaces among clusters. `before` is the text so far, in reverse, and `sizes`
has the size of each of its clusters, the last one first. A size is kept in one byte, so that of a
cluster that takes 256 bytes or more only the remainder is taken back, if that cuts no character in
two. -/
def erase? (before : List Char) (sizes : List Nat) : List (List Char) → Option (List Char)
  | [] => some before.reverse
  | cluster :: rest =>
    if cluster = ['\x08'] then
      match sizes with
      | [] => erase? before [] rest
      | size :: sizes => (dropBytes? size before).bind fun before => erase? before sizes rest
    else erase? (cluster.reverse ++ before) (byteCount cluster % 256 :: sizes) rest

/-- The line as it was meant: without its line break, and without what backspaces take back;
`none` if one of them cannot be carried out. -/
def clean? (line : List Char) : Option (List Char) := erase? [] [] (clusters (chomp line))

end DiceNotation.Line
