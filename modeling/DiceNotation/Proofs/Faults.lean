import DiceNotation.Proofs.Matching
import DiceNotation.Proofs.Meaning

/-! # The first fault

The numbers of a formula are checked in the course of building its batches. What
that comes to can be said of the tokens alone: they are gone through from left to
right, and the first number that does not fit is at fault. For each part of a
formula the walk returns that fault, or else what the part means.
-/

namespace DiceNotation

/-- The fault of a digit run that begins at `position`. -/
def Digits.fault? (n : Digits) (position : Nat) : Option ParseError :=
  if n.value < wordCount then none
  else some ⟨.numberTooLarge, String.ofList n.chars, position⟩

/-- The fault of a repetition suffix whose `x` stands at `position`. -/
def Digits.timesFault? (n : Digits) (position : Nat) : Option ParseError :=
  let fragment := String.ofList ('x' :: n.chars)
  (n.fault? (position + 1)).or <|
    if n.value = 0 then some ⟨.zeroRepetitions, fragment, position⟩
    else if n.value > maxRepetitions then some ⟨.tooManyRepetitions, fragment, position⟩
    else none

namespace Token

/-- How many characters a token takes; all of them are ASCII. -/
def width (t : Token) : Nat := t.chars.length

/-- The first fault among the numbers of a token sequence that begins at `position`. -/
def fault? (position : Nat) : List Token → Option ParseError
  | [] => none
  | .times :: .number n :: ts =>
    (n.timesFault? position).or (fault? (position + 1 + n.width) ts)
  | .number n :: ts => (n.fault? position).or (fault? (position + n.width) ts)
  | t :: ts => fault? (position + t.width) ts

/-- Numbers are checked from left to right. A suffix must not be cut before its number. -/
theorem fault?_append {us : List Token} (hus : ∀ n vs, us ≠ .number n :: vs) (p : Nat)
    (ts : List Token) :
    fault? p (ts ++ us) = (fault? p ts).or (fault? (p + (text ts).length) us) := by
  fun_induction fault? p ts with
  | case1 p => simp
  | case2 p n ts ih =>
      have hwidth : p + 1 + n.width + (text ts).length =
          p + (text (.times :: .number n :: ts)).length := by
        simp only [text_cons, chars, Digits.width, List.length_append, List.length_singleton]
        omega
      rw [List.cons_append, List.cons_append, fault?, ih, hwidth, Option.or_assoc]
  | case3 p n ts ih =>
      have hwidth : p + n.width + (text ts).length = p + (text (.number n :: ts)).length := by
        simp only [text_cons, chars, Digits.width, List.length_append]
        omega
      rw [List.cons_append, fault?, ih, hwidth, Option.or_assoc]
  | case4 p t ts htimes hnumber ih =>
      have hwidth : p + t.width + (text ts).length = p + (text (t :: ts)).length := by
        simp only [text_cons, width, List.length_append]
        omega
      rw [List.cons_append, ← hwidth, ← ih]
      -- With `ts` empty, an `x` in front must not take its number from `us`.
      refine fault?.eq_4 p t (ts ++ us) ?_ hnumber
      intro n vs ht
      cases ts with
      | nil => exact hus n vs
      | cons u ts =>
          intro hu
          obtain ⟨rfl, -⟩ := List.cons.inj hu
          exact htimes n ts ht rfl

theorem timesTokens_ne_number (n : Option Digits) (m : Digits) (vs : List Token) :
    timesTokens n ≠ .number m :: vs := by
  cases n <;> simp [timesTokens]

theorem summands_ne_number (ts : List Summand) (m : Digits) (vs : List Token) :
    ts.flatMap Summand.tokens ≠ .number m :: vs := by
  cases ts <;> simp [Summand.tokens]

end Token

/-- A value, unless there is a fault. -/
def faultOr {α : Type} (fault : Option ParseError) (a : α) : Except ParseError α :=
  match fault with
  | some e => .error e
  | none => .ok a

section

variable {α β : Type} {f g : Option ParseError} {a b : α}

@[simp] theorem faultOr_none (a : α) : faultOr none a = .ok a := rfl

theorem faultOr_congr (h : f = none → a = b) : faultOr f a = faultOr f b := by
  cases f with
  | some e => rfl
  | none => rw [h rfl]

/-- What comes first is at fault first. -/
theorem faultOr_bind {k : α → Except ParseError β} {x : β} (h : f = none → k a = faultOr g x) :
    (faultOr f a >>= k) = faultOr (f.or g) x := by
  cases f with
  | some e => rfl
  | none => exact h rfl

theorem faultOr_bind_ok {k : α → β} :
    (faultOr f a >>= fun a => Except.ok (k a)) = faultOr f (k a) := by
  cases f <;> rfl

theorem map_faultOr (k : α → β) : k <$> faultOr f a = faultOr f (k a) := by
  cases f <;> rfl

end

theorem Digits.checkedWord_eq (n : Digits) (p : Nat) :
    n.checkedWord p = faultOr (n.fault? p) n.word := by
  unfold checkedWord fault?
  split <;> rfl

theorem checkedWordOr_eq (default : UInt64) (p : Nat) (o : Option Digits) :
    checkedWordOr default p o = faultOr (Token.fault? p (numberTokens o)) (wordOr default o) := by
  cases o with
  | none => rfl
  | some n => simp [checkedWordOr, n.checkedWord_eq, numberTokens, Token.fault?, wordOr]

theorem Digits.toNat_word {n : Digits} {p : Nat} (h : n.fault? p = none) :
    n.word.toNat = n.value := by
  have hfits : n.value < wordCount := by simpa [fault?] using h
  exact UInt64.toNat_ofNat_of_lt' hfits

theorem Digits.checkedTimes_eq (n : Digits) (p : Nat) :
    n.checkedTimes p = faultOr (n.timesFault? p) n.word := by
  rw [checkedTimes, checkedWord_eq]
  refine faultOr_bind fun hfault => ?_
  have hzero : n.word = 0 ↔ n.value = 0 := by
    rw [← toNat_word hfault, ← UInt64.toNat_inj]
    rfl
  simp only [hzero, toNat_word hfault]
  split
  · rfl
  · split <;> rfl

theorem checkedSuffix_eq (p : Nat) (o : Option Digits) :
    checkedSuffix p o = faultOr (Token.fault? p (timesTokens o)) (o.map Digits.word) := by
  cases o with
  | none => rfl
  | some n => simp [checkedSuffix, n.checkedTimes_eq, timesTokens, Token.fault?, map_faultOr]

theorem ModifierText.checkedModifier_eq (m : ModifierText) (p : Nat) :
    m.checkedModifier p = faultOr (Token.fault? p m.tokens) m.modifier := by
  obtain ⟨mark, amount⟩ := m
  cases mark <;>
    simp [ModifierText.checkedModifier, checkedWordOr_eq, map_faultOr, ModifierText.tokens,
      Token.fault?, Token.width, Token.chars, ModifierText.modifier]

theorem checkedModifier_eq (p : Nat) (o : Option ModifierText) :
    checkedModifier p o =
      faultOr (Token.fault? p (modifierTokens o)) (o.map ModifierText.modifier) := by
  cases o with
  | none => rfl
  | some m => simp [checkedModifier, m.checkedModifier_eq, modifierTokens, map_faultOr]

theorem DiceText.checkedRoll_eq (d : DiceText) (p : Nat) (raw : List Char) (negative : Bool) :
    d.checkedRoll p raw negative = faultOr (Token.fault? p d.tokens) (d.roll raw negative) := by
  obtain ⟨count, faces, modifier⟩ := d
  have hfault : Token.fault? p
      (numberTokens count ++ .die :: .number faces :: modifierTokens modifier) =
      (Token.fault? p (numberTokens count)).or
        ((faces.fault? (p + (Token.text (numberTokens count)).length + 1)).or
          (Token.fault? (p + (Token.text (numberTokens count)).length + 1 + faces.width)
            (modifierTokens modifier))) := by
    rw [Token.fault?_append (by simp)]
    simp [Token.fault?, Token.width, Token.chars]
  rw [DiceText.tokens, hfault, DiceText.checkedRoll, checkedWordOr_eq]
  refine faultOr_bind fun _ => ?_
  rw [Digits.checkedWord_eq]
  refine faultOr_bind fun _ => ?_
  rw [checkedModifier_eq]
  exact faultOr_bind_ok

theorem Operand.checkedTerm_eq (operand : Operand) (p : Nat) (raw : List Char) (negative : Bool) :
    operand.checkedTerm p raw negative =
      faultOr (Token.fault? p operand.tokens) (operand.term raw negative) := by
  cases operand with
  | dice d => rw [checkedTerm, d.checkedRoll_eq, map_faultOr]; rfl
  | constant n =>
      rw [checkedTerm, n.checkedWord_eq, Operand.tokens, Token.fault?]
      simp [Token.fault?]
      exact faultOr_bind_ok

theorem Token.fault?_summand_tokens (t : Summand) (p : Nat) :
    Token.fault? p t.tokens = (Token.fault? (p + 1) t.operand.tokens).or
      (Token.fault? (p + 1 + (Token.text t.operand.tokens).length) (timesTokens t.times)) := by
  rw [Summand.tokens, Token.fault?, Token.fault?_append (Token.timesTokens_ne_number t.times)]
  · rfl
  all_goals simp

theorem Summand.checkedTerm_eq (t : Summand) (p : Nat) (times : Option UInt64) :
    t.checkedTerm p times =
      faultOr (Token.fault? p t.tokens) (t.term, (t.times.map Digits.word).or times) := by
  have hplace : p + (t.sign.char :: Token.text t.operand.tokens).length =
      p + 1 + (Token.text t.operand.tokens).length := by
    rw [List.length_cons, Nat.add_right_comm, Nat.add_assoc]
  rw [Token.fault?_summand_tokens, checkedTerm, Operand.checkedTerm_eq]
  refine faultOr_bind fun _ => ?_
  rw [checkedSuffix_eq, hplace]
  exact faultOr_bind_ok

theorem getLast?_filterMap_cons {α : Type} (o : Option α) (os : List (Option α)) :
    ((o :: os).filterMap id).getLast? = (os.filterMap id).getLast?.or o := by
  cases o with
  | none => simp
  | some a => simp [List.getLast?_cons, Option.or_some]

/-- The last suffix of some signed terms, if any of them has one. -/
def lastTimes (ts : List Summand) : Option Digits := ((ts.map Summand.times).filterMap id).getLast?

theorem lastTimes_cons (t : Summand) (ts : List Summand) :
    lastTimes (t :: ts) = (lastTimes ts).or t.times :=
  getLast?_filterMap_cons t.times (ts.map Summand.times)

theorem checkedTerms_eq (p : Nat) (times : Option UInt64) (ts : List Summand) :
    checkedTerms p times ts = faultOr (Token.fault? p (ts.flatMap Summand.tokens))
      (ts.map Summand.term, ((lastTimes ts).map Digits.word).or times) := by
  induction ts generalizing p times with
  | nil => rfl
  | cons t ts ih =>
      rw [List.flatMap_cons, Token.fault?_append (Token.summands_ne_number ts), checkedTerms,
        Summand.checkedTerm_eq]
      refine faultOr_bind fun _ => ?_
      dsimp only
      rw [ih, lastTimes_cons, Option.map_or, Option.or_assoc]
      exact faultOr_bind_ok

theorem Formula.getLast?_suffixes (F : Formula) :
    F.suffixes.getLast? = (lastTimes F.rest).or F.times :=
  getLast?_filterMap_cons F.times (F.rest.map Summand.times)

end DiceNotation
