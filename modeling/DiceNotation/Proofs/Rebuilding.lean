import DiceNotation.Proofs.Building

/-! # Reading a built roll back

The building functions change the text of a roll apart from its fields, in any
order and as often as they are called. The text still denotes the roll if at most
one modifier was given: a second one takes the place of the first in the fields,
but in the text it stands behind it, where no formula goes on with it.
-/

namespace DiceNotation

namespace DiceRoll

/-- A formula with the roll in it: its text alone, or behind a one sided die if it is subtracted. -/
def placed (d : DiceRoll) : String := if d.negative then "d1" ++ d.raw else d.raw

/-- The formula denotes one batch, which has this very roll in its place. -/
def Denoted (d : DiceRoll) : Prop :=
  ∃ b, parse d.placed = .ok [b] ∧ b.terms[if d.negative then 1 else 0]? = some (.dice d)

theorem placed_subtracted {d : DiceRoll} (h : d.negative = false) :
    d.subtracted.placed = "d1" ++ ("-" ++ d.raw) := by
  simp [placed, subtracted, h]

theorem placed_of_not_negative {d : DiceRoll} (h : d.negative = false) : d.placed = d.raw := by
  simp [placed, h]

theorem denoted_of_formula {d : DiceRoll} {F : Formula} (hfits : F.Fits)
    (htext : F.batch.text = d.placed)
    (hterm : F.batch.terms[if d.negative then 1 else 0]? = some (.dice d)) : d.Denoted :=
  ⟨F.batch, htext ▸ Formula.parse_text_batch hfits, hterm⟩

section

variable (count faces : UInt64)

theorem negative_modified (m : Option Modifier) :
    ((plain count faces).modified m).negative = false := by
  cases m <;> rfl

theorem denoted_modified (m : Option Modifier) : ((plain count faces).modified m).Denoted := by
  let F : Formula := ⟨.built count faces m, none, []⟩
  have hfits : F.Fits := ⟨DiceText.fits_built count faces m, by simp [F], by simp [F]⟩
  have hbatch : F.batch = ⟨(plain count faces).modified m, []⟩ :=
    congrArg (Batch.mk · []) (DiceText.roll_built count faces m)
  have hnegative := negative_modified count faces m
  refine denoted_of_formula hfits ?_ ?_
  · rw [hbatch, placed_of_not_negative hnegative]
    simp [Batch.text, Batch.terms, Term.raw]
  · rw [hbatch, hnegative]
    rfl

theorem denoted_modified_subtracted (m : Option Modifier) :
    ((plain count faces).modified m).subtracted.Denoted := by
  let F : Formula := ⟨⟨none, .ofNat 1, none⟩, none, [⟨.minus, .dice (.built count faces m), none⟩]⟩
  have hone : (Digits.ofNat 1).Fits := Digits.fits_ofNat 1
  have hlead : F.lead.Fits := ⟨by simp [F], hone, by simp [F]⟩
  have hrest : ∀ t ∈ F.rest, t.Fits := by
    intro t ht
    obtain rfl := List.mem_singleton.mp ht
    exact ⟨DiceText.fits_built count faces m, by simp⟩
  have hbatch : F.batch = ⟨⟨"d1", false, 1, 1, none⟩,
      [.dice ((plain count faces).modified m).subtracted]⟩ := by
    rw [← DiceText.roll_built_subtracted]
    rfl
  have hnegative := negative_modified count faces m
  refine denoted_of_formula ⟨hlead, by simp [F], hrest⟩ ?_ ?_
  · rw [hbatch]
    simp [Batch.text, Batch.terms, Term.raw, placed, subtracted, hnegative]
  · rw [hbatch]
    simp [Batch.terms, subtracted, hnegative]

end

end DiceRoll

namespace Reading

theorem run_opening (o : Opening) : (opened .start).run o.tokens = (opened o, []) := by
  cases o with
  | start => rfl
  | signed F s =>
      obtain ⟨r, hrun, hF⟩ := run_tokens F
      rw [Opening.tokens, run_append hrun, run_cons (step_sign hF s)]
      rfl

end Reading

namespace Token

theorem Separated.append_modifiers {ts : List Token} (h : Separated ts) (ms : List ModifierText) :
    Separated (ts ++ ms.flatMap ModifierText.tokens) := by
  induction ms generalizing ts with
  | nil => simpa using h
  | cons m ms ih =>
      rw [List.flatMap_cons, ← List.append_assoc]
      apply ih
      refine List.isChain_append.mpr ⟨h, ?_, ?_⟩
      · obtain ⟨mark, _ | n⟩ := m
        · exact .singleton _
        · exact List.isChain_cons_cons.mpr ⟨fun hmark => hmark.elim, .singleton _⟩
      · intro t _ u hu _
        obtain rfl := Option.some.inj hu
        exact id

end Token

namespace Formula

theorem read_error_of_unread {cs : List Char} {ts unread : List Token} {o : Opening} {d : DiceText}
    (hscan : Token.scan cs = (ts, []))
    (hrun : (Reading.opened .start).run ts = (.dice o d, unread)) (hunread : unread ≠ []) :
    read cs = .error ((Reading.dice o d).error (Token.text unread)) := by
  rw [read_eq_readTokens]
  simp only [readTokens, hscan, hrun, Reading.formula?]
  cases unread with
  | nil => exact absurd rfl hunread
  | cons t unread => simp

theorem read_modified_twice (o : Opening) {d : DiceText} (hd : d.modifier ≠ none)
    (m : ModifierText) (ms : List ModifierText) :
    ∃ e, read (Token.text (o.tokens ++ d.tokens ++ (m :: ms).flatMap ModifierText.tokens)) =
        .error e ∧
      e.fragment.toList = Token.text ((m :: ms).flatMap ModifierText.tokens) := by
  have hdice : (Reading.opened .start).run (o.tokens ++ d.tokens) = (.dice o d, []) := by
    rw [Reading.run_append (Reading.run_opening o), Reading.run_dice]
  have hscan := Token.scan_text
    ((Reading.separated_of_run hdice).append_modifiers (m :: ms))
  have hstep : (Reading.dice o d).step (.mark m.mark) = none := by
    obtain ⟨count, faces, _ | ⟨mark, amount⟩⟩ := d
    · exact absurd rfl hd
    · cases amount <;> rfl
  have hrun : (Reading.opened .start).run
      (o.tokens ++ d.tokens ++ (m :: ms).flatMap ModifierText.tokens) =
        (.dice o d, (m :: ms).flatMap ModifierText.tokens) := by
    rw [Reading.run_append hdice, List.flatMap_cons, ModifierText.tokens, List.cons_append,
      Reading.run, hstep]
  refine ⟨_, read_error_of_unread hscan hrun ?_, String.toList_ofList⟩
  rw [List.flatMap_cons]
  exact List.cons_ne_nil _ _

end Formula

namespace DiceRoll

theorem raw_foldl_withModifier (d : DiceRoll) (ms : List Modifier) :
    (ms.foldl withModifier d).raw = d.raw ++ String.join (ms.map Modifier.text) := by
  induction ms generalizing d with
  | nil => simp
  | cons m ms ih =>
      rw [List.foldl_cons, ih]
      simp [withModifier, String.append_assoc]

theorem negative_foldl_withModifier (d : DiceRoll) (ms : List Modifier) :
    (ms.foldl withModifier d).negative = d.negative := by
  induction ms generalizing d with
  | nil => rfl
  | cons m ms ih =>
      rw [List.foldl_cons, ih]
      rfl

theorem toList_join_modifiers (ms : List Modifier) :
    (String.join (ms.map Modifier.text)).toList =
      Token.text ((ms.map Modifier.written).flatMap ModifierText.tokens) := by
  induction ms with
  | nil => rfl
  | cons m ms ih =>
      rw [List.map_cons, List.map_cons, String.join_cons, String.toList_append, ih,
        List.flatMap_cons, Token.text_append, Modifier.text_written]

theorem exists_opening (count faces : UInt64) (steps : List BuildStep) :
    ∃ o : Opening, ((plain count faces).build steps).placed.toList = Token.text o.tokens ++
      ((BuildStep.modifiers steps).foldl withModifier (plain count faces)).raw.toList := by
  have hnegative : ((BuildStep.modifiers steps).foldl withModifier (plain count faces)).negative =
      false := negative_foldl_withModifier _ _
  rw [build_eq]
  split
  · refine ⟨.signed ⟨⟨none, .ofNat 1, none⟩, none, []⟩ .minus, ?_⟩
    rw [placed_subtracted hnegative, String.toList_append, String.toList_append]
    rfl
  · refine ⟨.start, ?_⟩
    rw [placed_of_not_negative hnegative]
    rfl

theorem parse_modified_twice (count faces : UInt64) {steps : List BuildStep} {m m' : Modifier}
    {ms : List Modifier} (h : BuildStep.modifiers steps = m :: m' :: ms) :
    ∃ e, parse ((plain count faces).build steps).placed = .error e ∧
      e.fragment = String.join ((m' :: ms).map Modifier.text) := by
  obtain ⟨o, hplaced⟩ := exists_opening count faces steps
  have htext : ((plain count faces).build steps).placed.toList =
      Token.text (o.tokens ++ (DiceText.built count faces (some m)).tokens ++
        ((m' :: ms).map Modifier.written).flatMap ModifierText.tokens) := by
    rw [hplaced, h, List.foldl_cons, raw_foldl_withModifier, String.toList_append,
      toList_join_modifiers, Token.text_append, Token.text_append, DiceText.text_built,
      List.append_assoc]
    rfl
  have hmodified : (DiceText.built count faces (some m)).modifier ≠ none := by
    simp [DiceText.built]
  obtain ⟨e, hread, hfragment⟩ :=
    Formula.read_modified_twice o hmodified m'.written (ms.map Modifier.written)
  refine ⟨e, ?_, ?_⟩
  · rw [← List.map_cons] at hread
    apply parse_of_read_error
    rw [htext, Token.strip_text, hread]
  · rw [← String.toList_inj, hfragment, toList_join_modifiers]
    rfl

end DiceRoll

/-- After any calls of the building functions the text of a roll denotes the roll exactly if at most
one of them gave it a modifier. Otherwise the text is malformed, and the error is about the
modifiers behind the first one. -/
theorem build_denoted_iff (count faces : UInt64) (steps : List BuildStep) :
    (((DiceRoll.plain count faces).build steps).Denoted ↔
      (BuildStep.modifiers steps).length ≤ 1) ∧
    (2 ≤ (BuildStep.modifiers steps).length →
      ∃ e, parse ((DiceRoll.plain count faces).build steps).placed = .error e ∧
        e.fragment = String.join ((BuildStep.modifiers steps).tail.map Modifier.text)) := by
  have hone (m : Option Modifier) (h : (BuildStep.modifiers steps).foldl DiceRoll.withModifier
      (.plain count faces) = (DiceRoll.plain count faces).modified m) :
      ((DiceRoll.plain count faces).build steps).Denoted := by
    rw [DiceRoll.build_eq, h]
    split
    · exact DiceRoll.denoted_modified_subtracted count faces m
    · exact DiceRoll.denoted_modified count faces m
  cases hms : BuildStep.modifiers steps with
  | nil => exact ⟨iff_of_true (hone none (by rw [hms]; rfl)) (by simp), by simp⟩
  | cons m ms =>
      cases ms with
      | nil => exact ⟨iff_of_true (hone (some m) (by rw [hms]; rfl)) (by simp), by simp⟩
      | cons m' ms =>
          obtain ⟨e, herror, hfragment⟩ := DiceRoll.parse_modified_twice count faces hms
          refine ⟨iff_of_false ?_ (by simp), fun _ => ⟨e, herror, hfragment⟩⟩
          rintro ⟨b, hparse, -⟩
          rw [herror] at hparse
          cases hparse

/-- Subtractions before and after the only modifier. -/
theorem build_denoted_interleaved :
    let d := (DiceRoll.plain 3 6).build [.subtract, .modify (.keepLow 2), .subtract, .subtract]
    d = ⟨"-3d6kl2", true, 3, 6, some (.keepLow 2)⟩ ∧
      ∃ b, parse "d1-3d6kl2" = .ok [b] ∧ b.terms[1]? = some (.dice d) := by
  intro d
  have hd : d = ⟨"-3d6kl2", true, 3, 6, some (.keepLow 2)⟩ := by rfl
  have hdenoted : d.Denoted := (build_denoted_iff 3 6 _).1.mpr (by decide)
  obtain ⟨b, hparse, hterm⟩ := hdenoted
  have hplaced : d.placed = "d1-3d6kl2" := by rfl
  rw [hplaced] at hparse
  exact ⟨hd, b, hparse, hterm⟩

/-- An explosion and a keep modifier behind it: the text has both, the field the last one only. -/
theorem build_twice_not_denoted :
    let d := (DiceRoll.plain 2 6).build [.modify (.explode 0), .modify (.keepHigh 1)]
    d = ⟨"2d6!kh1", false, 2, 6, some (.keepHigh 1)⟩ ∧ ¬ d.Denoted := by
  intro d
  have hd : d = ⟨"2d6!kh1", false, 2, 6, some (.keepHigh 1)⟩ := by rfl
  refine ⟨hd, ?_⟩
  rintro ⟨b, hparse, -⟩
  have hplaced : d.placed = "2d6!kh1" := by rfl
  have herror : parse "2d6!kh1" =
      .error ⟨.unexpectedInput [.finish, .number, .times, .term], "kh1", 4⟩ := by decide +kernel
  rw [hplaced, herror] at hparse
  cases hparse

end DiceNotation
