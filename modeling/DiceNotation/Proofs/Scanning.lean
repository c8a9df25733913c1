import DiceNotation.Formula.Token
import DiceNotation.Text.Bytes
import Mathlib.Data.List.Chain

/-! # Scanning a text for tokens

A text is scanned by taking each digit run as long as it is and stopping at the
first character that opens no token. Two digit runs next to each other would be
taken as one, so only separated sequences, in which no number follows a number,
can be scanned back from their text. For those scanning is the inverse of writing.
-/

namespace DiceNotation

namespace Digits

def single (c : Char) (h : c.isDigit = true) : Digits :=
  ⟨[c], by simp, by simpa using h⟩

/-- The run with one more digit in front. -/
def cons (c : Char) (h : c.isDigit = true) (n : Digits) : Digits :=
  ⟨c :: n.chars, by simp, by simpa using ⟨h, n.all_digits⟩⟩

@[simp] theorem chars_single (c : Char) (h : c.isDigit = true) : (single c h).chars = [c] := rfl

@[simp] theorem chars_cons (c : Char) (h : c.isDigit = true) (n : Digits) :
    (cons c h n).chars = c :: n.chars := rfl

theorem takeWhile_isDigit (n : Digits) {cs : List Char}
    (h : ∀ c ∈ cs.head?, c.isDigit = false) : (n.chars ++ cs).takeWhile Char.isDigit = n.chars := by
  rw [List.takeWhile_append_of_pos n.all_digits]
  cases cs with
  | nil => simp
  | cons c cs => simp [h c rfl]

end Digits

namespace Token

/-- Puts a digit in front of the tokens after it, where it joins a digit run that comes first. -/
def consDigit (c : Char) (h : c.isDigit = true) : List Token → List Token
  | .number n :: ts => .number (n.cons c h) :: ts
  | ts => .number (Digits.single c h) :: ts

/-- The tokens at the start of a text, and the rest of it from the first character that opens
none. -/
def scan : List Char → List Token × List Char
  | [] => ([], [])
  | 'd' :: cs => let (ts, rest) := scan cs; (.die :: ts, rest)
  | '!' :: cs => let (ts, rest) := scan cs; (.mark .explode :: ts, rest)
  | 'k' :: 'h' :: cs => let (ts, rest) := scan cs; (.mark .keepHigh :: ts, rest)
  | 'k' :: 'l' :: cs => let (ts, rest) := scan cs; (.mark .keepLow :: ts, rest)
  | 'x' :: cs => let (ts, rest) := scan cs; (.times :: ts, rest)
  | '+' :: cs => let (ts, rest) := scan cs; (.sign .plus :: ts, rest)
  | '-' :: cs => let (ts, rest) := scan cs; (.sign .minus :: ts, rest)
  | c :: cs =>
    if h : c.isDigit = true then
      let (ts, rest) := scan cs
      (consDigit c h ts, rest)
    else ([], c :: cs)

theorem text_consDigit (c : Char) (h : c.isDigit = true) (ts : List Token) :
    text (consDigit c h ts) = c :: text ts := by
  unfold consDigit
  split <;> simp [chars]

/-- Scanning loses nothing: the tokens' text and the rest make up the input. -/
theorem text_scan (cs : List Char) : text (scan cs).1 ++ (scan cs).2 = cs := by
  fun_induction scan cs <;> simp_all [chars, Mark.chars, Sign.char, text_consDigit]

theorem chars_ne_nil (t : Token) : t.chars ≠ [] := by
  cases t with
  | number n => exact n.nonempty
  | mark m => cases m <;> exact List.cons_ne_nil _ _
  | die | times | sign => exact List.cons_ne_nil _ _

theorem length_text_pos (t : Token) (ts : List Token) : 0 < (text (t :: ts)).length := by
  rw [text_cons, List.length_append]
  exact Nat.add_pos_left (List.length_pos_iff.mpr t.chars_ne_nil) _

def IsNumber : Token → Prop
  | .number _ => True
  | _ => False

def Separated (ts : List Token) : Prop := ts.IsChain fun t u => t.IsNumber → ¬ u.IsNumber

theorem Separated.tail {t : Token} {ts : List Token} (h : Separated (t :: ts)) : Separated ts :=
  List.IsChain.tail h

theorem Separated.ne_number {t : Token} {ts : List Token} (h : Separated (t :: ts))
    (ht : t.IsNumber) (m : Digits) (us : List Token) : ts ≠ .number m :: us := by
  rintro rfl
  exact (List.isChain_cons_cons.mp h).1 ht trivial

theorem consDigit_of_ne_number {c : Char} (h : c.isDigit = true) {ts : List Token}
    (hts : ∀ m us, ts ≠ .number m :: us) :
    consDigit c h ts = .number (Digits.single c h) :: ts := by
  unfold consDigit
  split
  · exact absurd rfl (hts _ _)
  · rfl

theorem scan_digit {c : Char} (h : c.isDigit = true) (cs : List Char) :
    scan (c :: cs) = (consDigit c h (scan cs).1, (scan cs).2) := by
  rw [scan.eq_def]
  split
  case h_1 heq => cases heq
  case h_9 =>
    rename_i heq
    obtain ⟨rfl, rfl⟩ := List.cons.inj heq
    rw [dif_pos h]
  all_goals
    rename_i heq
    obtain ⟨rfl, -⟩ := List.cons.inj heq
    exact absurd h (by decide)

theorem scan_digits (n : Digits) {cs rest : List Char} {ts : List Token}
    (hscan : scan cs = (ts, rest)) (hts : ∀ m us, ts ≠ .number m :: us) :
    scan (n.chars ++ cs) = (.number n :: ts, rest) := by
  obtain ⟨chars, nonempty, digits⟩ := n
  induction chars with
  | nil => exact absurd rfl nonempty
  | cons c chars ih =>
      have hc : c.isDigit = true := digits c List.mem_cons_self
      rw [List.cons_append, scan_digit hc]
      cases chars with
      | nil =>
          simp only [List.nil_append, hscan, consDigit_of_ne_number hc hts]
          rfl
      | cons c' chars =>
          have hscan' := ih (List.cons_ne_nil c' chars)
            (fun d hd => digits d (List.mem_cons_of_mem c hd))
          simp only [hscan', consDigit]
          rfl

/-- One token in front of a text is scanned as itself, if it is no digit run or the text goes on
with something else than a number. -/
theorem scan_chars_append (t : Token) {cs rest : List Char} {ts : List Token}
    (hscan : scan cs = (ts, rest)) (hts : t.IsNumber → ∀ m us, ts ≠ .number m :: us) :
    scan (t.chars ++ cs) = (t :: ts, rest) := by
  cases t with
  | number n => exact scan_digits n hscan (hts trivial)
  | die | times => simp [chars, scan, hscan]
  | mark m => cases m <;> simp [chars, Mark.chars, scan, hscan]
  | sign s => cases s <;> simp [chars, Sign.char, scan, hscan]

theorem scan_text {ts : List Token} (h : Separated ts) : scan (text ts) = (ts, []) := by
  induction ts with
  | nil => rfl
  | cons t ts ih => exact scan_chars_append t (ih h.tail) h.ne_number

theorem utf8Size_of_mem_text {ts : List Token} {c : Char} (h : c ∈ text ts) : c.utf8Size = 1 := by
  obtain ⟨t, -, ht⟩ := List.mem_flatMap.mp h
  cases t with
  | number n =>
      obtain ⟨-, hhigh⟩ : 48 ≤ c.toNat ∧ c.toNat ≤ 57 :=
        Char.isDigit_iff_toNat.mp (n.all_digits c ht)
      have hascii : c.toNat ≤ 127 := Nat.le_trans hhigh (by decide)
      exact Char.utf8Size_eq_one_iff.mpr (UInt32.le_iff_toNat_le.mpr hascii)
  | die | times =>
      obtain rfl := List.mem_singleton.mp ht
      rfl
  | mark m => cases m <;> simp [chars, Mark.chars] at ht <;> rcases ht with rfl | rfl <;> rfl
  | sign s => cases s <;> simp [chars, Sign.char] at ht <;> subst ht <;> rfl

/-- Tokens are ASCII, so their characters count as many bytes. -/
theorem utf8ByteSize_text (ts : List Token) :
    (String.ofList (text ts)).utf8ByteSize = (text ts).length := by
  have hascii : ∀ c ∈ text ts, c.utf8Size = 1 := fun _ hc => utf8Size_of_mem_text hc
  generalize text ts = cs at hascii
  induction cs with
  | nil => rfl
  | cons c cs ih =>
      obtain ⟨hc, hcs⟩ := List.forall_mem_cons.mp hascii
      rw [String.ofList_cons, String.utf8ByteSize_append, String.utf8ByteSize_singleton, hc, ih hcs,
        List.length_cons, Nat.add_comm]

end Token

theorem splitBytes_utf8ByteSize (cs ds : List Char) :
    splitBytes (String.ofList cs).utf8ByteSize (cs ++ ds) = some (cs, ds) := by
  induction cs with
  | nil => cases ds <;> rfl
  | cons c cs ih =>
      rw [String.ofList_cons, String.utf8ByteSize_append, String.utf8ByteSize_singleton]
      obtain ⟨n, hn⟩ := Nat.exists_eq_succ_of_ne_zero (Nat.ne_of_gt c.utf8Size_pos)
      have hsize : c.utf8Size + (String.ofList cs).utf8ByteSize =
          (n + (String.ofList cs).utf8ByteSize) + 1 := by omega
      rw [hsize, List.cons_append, splitBytes, if_pos (by omega)]
      have hrest : n + (String.ofList cs).utf8ByteSize + 1 - c.utf8Size =
          (String.ofList cs).utf8ByteSize := by omega
      rw [hrest, ih]
      rfl

end DiceNotation
