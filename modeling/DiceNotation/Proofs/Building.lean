import DiceNotation.Proofs.NormalForm

/-! # Built batches

Terms can be built instead of read, and then their text is put together apart
from their fields. Subtracting a roll commutes with giving it a modifier, and a
second subtraction changes nothing; so a roll that gets one modifier at most is
written in one of four ways, whatever the order of the calls. Each of them is the
text of a formula's term, and a batch of such terms is read back as it was built.
-/

namespace DiceNotation

/-- A call of a building function on a dice roll. -/
inductive BuildStep where
  | modify (modifier : Modifier)
  | subtract
  deriving Repr, DecidableEq

def BuildStep.modifiers : List BuildStep → List Modifier
  | [] => []
  | .modify m :: steps => m :: modifiers steps
  | .subtract :: steps => modifiers steps

namespace DiceRoll

def buildStep (d : DiceRoll) : BuildStep → DiceRoll
  | .modify m => d.withModifier m
  | .subtract => d.subtracted

/-- The roll after some calls of building functions, in their order. -/
def build (d : DiceRoll) (steps : List BuildStep) : DiceRoll := steps.foldl buildStep d

/-- The roll with a modifier, if there is to be one. -/
def modified (d : DiceRoll) : Option Modifier → DiceRoll
  | none => d
  | some m => d.withModifier m

theorem withModifier_subtracted (d : DiceRoll) (m : Modifier) :
    d.subtracted.withModifier m = (d.withModifier m).subtracted := by
  by_cases h : d.negative
  · simp [subtracted, withModifier, h]
  · simp [subtracted, withModifier, h, String.append_assoc]

theorem foldl_withModifier_subtracted (d : DiceRoll) (ms : List Modifier) :
    ms.foldl withModifier d.subtracted = (ms.foldl withModifier d).subtracted := by
  induction ms generalizing d with
  | nil => rfl
  | cons m ms ih => rw [List.foldl_cons, List.foldl_cons, withModifier_subtracted, ih]

/-- The order of the modifiers among each other counts, but not where a subtraction comes between
them, nor how often. -/
theorem build_eq (d : DiceRoll) (steps : List BuildStep) :
    d.build steps =
      if .subtract ∈ steps then
        ((BuildStep.modifiers steps).foldl withModifier d).subtracted
      else (BuildStep.modifiers steps).foldl withModifier d := by
  induction steps generalizing d with
  | nil => rfl
  | cons step steps ih =>
      rw [build, List.foldl_cons, ← build, ih]
      cases step with
      | modify m => simp [buildStep, BuildStep.modifiers]
      | subtract => simp [buildStep, BuildStep.modifiers, foldl_withModifier_subtracted]

theorem exists_build_eq_subtracted (d : DiceRoll) {steps : List BuildStep}
    (hone : (BuildStep.modifiers steps).length ≤ 1) (hsub : .subtract ∈ steps) :
    ∃ m, d.build steps = (d.modified m).subtracted := by
  rw [build_eq, if_pos hsub]
  cases hms : BuildStep.modifiers steps with
  | nil => exact ⟨none, rfl⟩
  | cons m ms =>
      rw [hms, List.length_cons] at hone
      obtain rfl := List.length_eq_zero_iff.mp (Nat.le_zero.mp (Nat.le_of_succ_le_succ hone))
      exact ⟨some m, rfl⟩

end DiceRoll

/-- A term for a place after the leading one: a constant with its sign, or new dice that are
subtracted at least once and get at most one modifier. -/
inductive Term.Built : Term → Prop where
  | constant (value : UInt64) (negative : Bool) : Built (.constant (.ofValue value negative))
  | dice (count faces : UInt64) {steps : List BuildStep} :
      (BuildStep.modifiers steps).length ≤ 1 → .subtract ∈ steps →
      Built (.dice ((DiceRoll.plain count faces).build steps))

namespace Digits

theorem word_ofNat (n : UInt64) : (ofNat n.toNat).word = n := by
  rw [word, value_ofNat, UInt64.ofNat_toNat]

theorem fits_ofNat (n : UInt64) : (ofNat n.toNat).Fits := by
  rw [Fits, value_ofNat]
  exact n.toNat_lt

end Digits

/-- The modifier as it is written in a built roll. -/
def Modifier.written : Modifier → ModifierText
  | .explode limit => ⟨.explode, if limit = 0 then none else some (.ofNat limit.toNat)⟩
  | .keepHigh keep => ⟨.keepHigh, some (.ofNat keep.toNat)⟩
  | .keepLow keep => ⟨.keepLow, some (.ofNat keep.toNat)⟩

namespace Modifier

theorem modifier_written (m : Modifier) : m.written.modifier = m := by
  cases m with
  | explode limit =>
      by_cases h : limit = 0
      · simp [written, ModifierText.modifier, wordOr, h]
      · simp [written, ModifierText.modifier, wordOr, h, Digits.word_ofNat]
  | keepHigh keep | keepLow keep =>
      simp [written, ModifierText.modifier, wordOr, Digits.word_ofNat]

theorem text_written (m : Modifier) : Token.text m.written.tokens = m.text.toList := by
  cases m with
  | explode limit =>
      by_cases h : limit = 0
      · simp [written, text, ModifierText.tokens, numberTokens, Token.chars, Mark.chars, h]
      · simp [written, text, ModifierText.tokens, numberTokens, Token.chars, Mark.chars, h,
          toList_decimal]
  | keepHigh keep | keepLow keep =>
      simp [written, text, ModifierText.tokens, numberTokens, Token.chars, Mark.chars,
        toList_decimal]

theorem fits_written (m : Modifier) : ∀ n ∈ m.written.amount, n.Fits := by
  intro n hn
  cases m with
  | explode limit =>
      by_cases h : limit = 0
      · simp [written, h] at hn
      · obtain rfl : Digits.ofNat limit.toNat = n := by simpa [written, h] using hn
        exact Digits.fits_ofNat limit
  | keepHigh keep | keepLow keep =>
      obtain rfl := Option.some.inj hn
      exact Digits.fits_ofNat keep

end Modifier

namespace DiceText

/-- Dice as they are written when built: the count always, and all numbers without leading
zeros. -/
def built (count faces : UInt64) (m : Option Modifier) : DiceText where
  count := some (.ofNat count.toNat)
  faces := .ofNat faces.toNat
  modifier := m.map Modifier.written

variable (count faces : UInt64) (m : Option Modifier)

theorem text_built :
    Token.text (built count faces m).tokens =
      ((DiceRoll.plain count faces).modified m).raw.toList := by
  cases m with
  | none =>
      simp [built, tokens, modifierTokens, numberTokens, Token.chars, DiceRoll.modified,
        DiceRoll.plain, toList_decimal]
  | some m =>
      simp [built, tokens, modifierTokens, numberTokens, Token.chars, DiceRoll.modified,
        DiceRoll.withModifier, DiceRoll.plain, toList_decimal, Modifier.text_written]

theorem fits_built : (built count faces m).Fits := by
  refine ⟨?_, Digits.fits_ofNat faces, ?_⟩
  · intro n hn
    obtain rfl := Option.some.inj hn
    exact Digits.fits_ofNat count
  · intro t ht
    obtain ⟨m', -, rfl⟩ := Option.map_eq_some_iff.mp ht
    exact m'.fits_written

theorem modifier_built : (built count faces m).modifier.map ModifierText.modifier = m := by
  cases m with
  | none => rfl
  | some m => exact congrArg some m.modifier_written

theorem roll_built :
    (built count faces m).roll (Token.text (built count faces m).tokens) false =
      (DiceRoll.plain count faces).modified m := by
  rw [text_built, roll, modifier_built, String.ofList_toList]
  cases m <;> simp [built, wordOr, Digits.word_ofNat, DiceRoll.modified, DiceRoll.withModifier,
    DiceRoll.plain]

theorem roll_built_subtracted :
    (built count faces m).roll ('-' :: Token.text (built count faces m).tokens) true =
      ((DiceRoll.plain count faces).modified m).subtracted := by
  have hroll := roll_built count faces m
  have hpositive : ((DiceRoll.plain count faces).modified m).negative = false := by
    rw [← hroll]
    rfl
  have hraw (cs : List Char) : String.ofList ('-' :: cs) = "-" ++ String.ofList cs := by
    change String.ofList (['-'] ++ cs) = _
    exact String.ofList_append
  rw [DiceRoll.subtracted, hpositive, ← hroll]
  simp [roll, hraw]

end DiceText

theorem Term.Built.exists_summand {t : Term} (h : t.Built) :
    ∃ u : Summand, u.Fits ∧ u.term = t := by
  cases h with
  | constant value negative =>
      refine ⟨⟨if negative then .minus else .plus, .constant (.ofNat value.toNat), none⟩,
        ⟨Digits.fits_ofNat value, by simp⟩, ?_⟩
      cases negative <;>
        simp [Summand.term, Operand.term, Operand.tokens, Token.chars, Constant.ofValue,
          Digits.word_ofNat, Sign.char, ← toList_decimal]
  | dice count faces hone hsub =>
      obtain ⟨m, hm⟩ := (DiceRoll.plain count faces).exists_build_eq_subtracted hone hsub
      refine ⟨⟨.minus, .dice (.built count faces m), none⟩,
        ⟨DiceText.fits_built count faces m, by simp⟩, ?_⟩
      rw [hm, ← DiceText.roll_built_subtracted]
      rfl

theorem exists_summands_of_built {ts : List Term} (h : ∀ t ∈ ts, t.Built) :
    ∃ us : List Summand, (∀ u ∈ us, u.Fits) ∧ us.map Summand.term = ts := by
  induction ts with
  | nil => exact ⟨[], by simp, rfl⟩
  | cons t ts ih =>
      obtain ⟨ht, hts⟩ := List.forall_mem_cons.mp h
      obtain ⟨u, hu, rfl⟩ := ht.exists_summand
      obtain ⟨us, hus, rfl⟩ := ih hts
      exact ⟨u :: us, List.forall_mem_cons.mpr ⟨hu, hus⟩, rfl⟩

/-- A batch of a new roll, modified once at most, and of built terms after it is shown as a text
that parses to this one batch, with all its fields. -/
theorem parse_text_built (count faces : UInt64) (m : Option Modifier) (rest : List Term)
    (h : ∀ t ∈ rest, t.Built) :
    parse (Batch.text ⟨(DiceRoll.plain count faces).modified m, rest⟩) =
      .ok [⟨(DiceRoll.plain count faces).modified m, rest⟩] := by
  obtain ⟨us, hus, rfl⟩ := exists_summands_of_built h
  let F : Formula := ⟨.built count faces m, none, us⟩
  have hfits : F.Fits := ⟨DiceText.fits_built count faces m, by simp [F], hus⟩
  have hbatch : F.batch = ⟨(DiceRoll.plain count faces).modified m, us.map Summand.term⟩ := by
    rw [← DiceText.roll_built]
    rfl
  rw [← hbatch]
  exact Formula.parse_text_batch hfits

/-- An unlimited explosion, the largest constant, and dice of no faces whose modifier comes between
two subtractions. -/
theorem parse_text_built_four :
    let rest : List Term := [.constant (.ofValue 18446744073709551615 false),
      .dice ((DiceRoll.plain 0 0).build [.subtract, .modify (.keepLow 7), .subtract]),
      .constant (.ofValue 0 true)]
    Batch.text ⟨(DiceRoll.plain 2 6).modified (some (.explode 0)), rest⟩ =
        "2d6!+18446744073709551615-0d0kl7-0" ∧
      parse "2d6!+18446744073709551615-0d0kl7-0" =
        .ok [⟨(DiceRoll.plain 2 6).modified (some (.explode 0)), rest⟩] := by
  intro rest
  have hbuilt : ∀ t ∈ rest, t.Built := by
    intro t ht
    simp only [rest, List.mem_cons, List.not_mem_nil, or_false] at ht
    rcases ht with rfl | rfl | rfl
    · exact .constant 18446744073709551615 false
    · exact .dice 0 0 (by decide) (by decide)
    · exact .constant 0 true
  have htext : Batch.text ⟨(DiceRoll.plain 2 6).modified (some (.explode 0)), rest⟩ =
      "2d6!+18446744073709551615-0d0kl7-0" := by rfl
  refine ⟨htext, ?_⟩
  rw [← htext]
  exact parse_text_built 2 6 (some (.explode 0)) rest hbuilt

end DiceNotation
