import DiceNotation.Proofs.Faults

/-! # Numbers that fit

A well-formed text is a formula's, and then only its numbers can be at fault:
a digit run must denote a 64-bit word, a repetition suffix a number from 1 to
the limit, also where a later suffix overrides it. With that, parsing is exactly
the inverse of writing a formula whose numbers fit.
-/

namespace DiceNotation

namespace Digits

def Fits (n : Digits) : Prop := n.value < wordCount

/-- The run may stand in a repetition suffix. -/
def Repeats (n : Digits) : Prop := 1 ≤ n.value ∧ n.value ≤ maxRepetitions

theorem Repeats.fits {n : Digits} (h : n.Repeats) : n.Fits :=
  Nat.lt_of_le_of_lt h.2 (by decide)

theorem fault?_eq_none_iff {n : Digits} {position : Nat} :
    n.fault? position = none ↔ n.Fits := by
  simp [fault?, Fits]

theorem timesFault?_eq_none_iff {n : Digits} {position : Nat} :
    n.timesFault? position = none ↔ n.Repeats := by
  constructor
  · intro h
    obtain ⟨-, hbounds⟩ := Option.or_eq_none_iff.mp h
    split at hbounds
    · cases hbounds
    · rename_i hzero
      split at hbounds
      · cases hbounds
      · rename_i hmany
        exact ⟨Nat.pos_of_ne_zero hzero, Nat.le_of_not_gt hmany⟩
  · intro h
    refine Option.or_eq_none_iff.mpr ⟨fault?_eq_none_iff.mpr h.fits, ?_⟩
    rw [if_neg (Nat.ne_of_gt h.1), if_neg (Nat.not_lt.mpr h.2)]

end Digits

def DiceText.Fits (d : DiceText) : Prop :=
  (∀ n ∈ d.count, n.Fits) ∧ d.faces.Fits ∧ ∀ m ∈ d.modifier, ∀ n ∈ m.amount, n.Fits

def Operand.Fits : Operand → Prop
  | .dice d => d.Fits
  | .constant n => n.Fits

def Summand.Fits (t : Summand) : Prop := t.operand.Fits ∧ ∀ n ∈ t.times, n.Repeats

/-- All numbers of a formula fit, overridden suffixes included. -/
def Formula.Fits (F : Formula) : Prop :=
  F.lead.Fits ∧ (∀ n ∈ F.times, n.Repeats) ∧ ∀ t ∈ F.rest, t.Fits

namespace Token

theorem fault?_numberTokens {n : Option Digits} {p : Nat} :
    fault? p (numberTokens n) = none ↔ ∀ m ∈ n, m.Fits := by
  cases n with
  | none => simp [numberTokens, fault?]
  | some n => simp [numberTokens, fault?, Digits.fault?_eq_none_iff]

theorem fault?_timesTokens {n : Option Digits} {p : Nat} :
    fault? p (timesTokens n) = none ↔ ∀ m ∈ n, m.Repeats := by
  cases n with
  | none => simp [timesTokens, fault?]
  | some n => simp [timesTokens, fault?, Digits.timesFault?_eq_none_iff]

theorem fault?_modifierTokens {m : Option ModifierText} {p : Nat} :
    fault? p (modifierTokens m) = none ↔ ∀ t ∈ m, ∀ n ∈ t.amount, n.Fits := by
  cases m with
  | none => simp [modifierTokens, fault?]
  | some m => simp [modifierTokens, ModifierText.tokens, fault?, fault?_numberTokens]

theorem fault?_dice {d : DiceText} {p : Nat} : fault? p d.tokens = none ↔ d.Fits := by
  obtain ⟨count, faces, modifier⟩ := d
  rw [DiceText.tokens, fault?_append (by simp)]
  simp [fault?, fault?_numberTokens, fault?_modifierTokens, Digits.fault?_eq_none_iff,
    DiceText.Fits]

theorem fault?_operand {operand : Operand} {p : Nat} :
    fault? p operand.tokens = none ↔ operand.Fits := by
  cases operand with
  | dice d => exact fault?_dice
  | constant n => simp [Operand.tokens, Operand.Fits, fault?, Digits.fault?_eq_none_iff]

theorem fault?_summand {t : Summand} {p : Nat} : fault? p t.tokens = none ↔ t.Fits := by
  rw [Summand.tokens, fault?, fault?_append (timesTokens_ne_number t.times)]
  · simp [fault?_operand, fault?_timesTokens, Summand.Fits]
  all_goals simp

theorem fault?_summands {ts : List Summand} {p : Nat} :
    fault? p (ts.flatMap Summand.tokens) = none ↔ ∀ t ∈ ts, t.Fits := by
  induction ts generalizing p with
  | nil => simp [fault?]
  | cons t ts ih =>
      rw [List.flatMap_cons, fault?_append (summands_ne_number ts)]
      simp [fault?_summand, ih]

theorem fault?_formula {F : Formula} {p : Nat} : fault? p F.tokens = none ↔ F.Fits := by
  rw [Formula.tokens, fault?_append (summands_ne_number F.rest),
    fault?_append (timesTokens_ne_number F.times)]
  simp [fault?_dice, fault?_timesTokens, fault?_summands, Formula.Fits, and_assoc]

end Token

namespace Formula

theorem Fits.repeats {F : Formula} (h : F.Fits) : ∀ n ∈ F.suffixes, n.Repeats := by
  obtain ⟨-, hlead, hrest⟩ := h
  intro n hn
  obtain ⟨o, ho, rfl⟩ := List.mem_filterMap.mp hn
  rcases List.mem_cons.mp ho with hown | hlater
  · exact hlead n hown.symm
  · obtain ⟨t, ht, htimes⟩ := List.mem_map.mp hlater
    exact (hrest t ht).2 n htimes

/-- The last suffix says how many batches there are. -/
theorem Fits.toNat_last {F : Formula} (h : F.Fits) :
    ((F.suffixes.getLast?.map Digits.word).getD 1).toNat = F.repetitions := by
  unfold repetitions
  split
  · rename_i hnone
    rw [hnone]
    rfl
  · rename_i n hn
    rw [hn]
    exact UInt64.toNat_ofNat_of_lt' (h.repeats n (List.mem_of_getLast? hn)).fits

/-- The walk over a formula returns the first fault among its numbers, or else what it means. -/
theorem checkedBatches_eq (F : Formula) :
    F.checkedBatches = faultOr (Token.fault? 0 F.tokens) F.batches := by
  have hfault : Token.fault? 0 F.tokens = (Token.fault? 0 F.lead.tokens).or
      ((Token.fault? (Token.text F.lead.tokens).length (timesTokens F.times)).or
        (Token.fault? ((Token.text F.lead.tokens).length +
          (Token.text (timesTokens F.times)).length) (F.rest.flatMap Summand.tokens))) := by
    rw [tokens, Token.fault?_append (Token.summands_ne_number F.rest),
      Token.fault?_append (Token.timesTokens_ne_number F.times), Option.or_assoc, Nat.zero_add,
      Nat.zero_add, Token.text_append, List.length_append]
  rw [faultOr_congr
    (b := List.replicate ((F.suffixes.getLast?.map Digits.word).getD 1).toNat F.batch)
    fun h => by rw [(Token.fault?_formula.mp h).toNat_last]; rfl]
  rw [hfault, checkedBatches, F.lead.checkedRoll_eq]
  refine faultOr_bind fun _ => ?_
  rw [checkedSuffix_eq]
  refine faultOr_bind fun _ => ?_
  dsimp only
  rw [checkedTerms_eq, getLast?_suffixes, Option.map_or]
  exact faultOr_bind_ok

end Formula

theorem parse_of_read_error {f : String} {e : ParseError}
    (h : Formula.read (strip f.toList) = .error e) : parse f = .error e := by
  rw [parse, h]
  rfl

theorem parse_of_read {f : String} {F : Formula} (h : Formula.read (strip f.toList) = .ok F) :
    parse f = faultOr (Token.fault? 0 F.tokens) F.batches := by
  rw [parse, h, ← F.checkedBatches_eq]
  rfl

/-- A text denotes batches exactly when, without its white space, it is the text of a formula whose
numbers fit and which denotes them. -/
theorem parse_eq_ok_iff {f : String} {bs : List Batch} :
    parse f = .ok bs ↔ ∃ F : Formula, F.text = strip f.toList ∧ F.Fits ∧ F.batches = bs := by
  constructor
  · intro h
    cases hread : Formula.read (strip f.toList) with
    | error e => simp [parse_of_read_error hread] at h
    | ok F =>
        rw [parse_of_read hread] at h
        cases hfault : Token.fault? 0 F.tokens with
        | some e => simp [hfault, faultOr] at h
        | none =>
            rw [hfault] at h
            exact ⟨F, Formula.read_eq_ok_iff.mp hread, Token.fault?_formula.mp hfault,
              Except.ok.inj h⟩
  · intro h
    obtain ⟨F, htext, hfits, rfl⟩ := h
    rw [parse_of_read (Formula.read_eq_ok_iff.mpr htext), Token.fault?_formula.mpr hfits,
      faultOr_none]

end DiceNotation
