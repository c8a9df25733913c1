import DiceNotation.Proofs.Draws

/-! # Refusals

A term is checked before any die is thrown. The checks of a roll are listed here
with their rank, each with what it objects to alone; the fault of a roll is the
objection of the lowest rank, and a roll without objections has none. A constant
is checked for its size only.
-/

namespace DiceNotation

namespace DiceRoll

/-- The faces, the count or the number of dice to keep is out of range, or an explosion of one sided
dice would never end. -/
def Refused (d : DiceRoll) : Prop :=
  d.faces = 0 ∨ maxFaces < d.faces.toNat ∨ d.count = 0 ∨ maxDice < d.count.toNat ∨
    (∃ keep, (d.modifier = some (.keepHigh keep) ∨ d.modifier = some (.keepLow keep)) ∧
      (keep = 0 ∨ d.count ≤ keep)) ∨
    (d.modifier = some (.explode 0) ∧ d.faces = 1)

theorem refused_iff {d : DiceRoll} : d.Refused ↔ d.fault? ≠ none := by
  unfold Refused fault?
  grind

/-- What a single check objects to, with the check's rank. -/
@[grind cases]
inductive Objection (d : DiceRoll) : (rank : Nat) → EvaluationFault → Prop where
  | noFaces : d.faces = 0 → Objection d 1 .noFaces
  | noDice : d.count = 0 → Objection d 2 .noDice
  | tooManyDice : maxDice < d.count.toNat → Objection d 3 .tooManyDice
  | tooManyFaces : maxFaces < d.faces.toNat → Objection d 4 .tooManyFaces
  | keepOutOfRange {keep : UInt64} :
      d.modifier = some (.keepHigh keep) ∨ d.modifier = some (.keepLow keep) →
      keep = 0 ∨ d.count ≤ keep → Objection d 5 (.keepOutOfRange keep d.count)
  | endlessExplosion :
      d.modifier = some (.explode 0) → d.faces = 1 → Objection d 6 .endlessExplosion

/-- The fault is what the first check objects to that objects at all. -/
def FirstObjection (d : DiceRoll) (e : EvaluationFault) : Prop :=
  ∃ rank, d.Objection rank e ∧ ∀ rank' e', d.Objection rank' e' → rank ≤ rank'

variable {d : DiceRoll} {e e' : EvaluationFault}

theorem objection_unique {rank : Nat} (h : d.Objection rank e) (h' : d.Objection rank e') :
    e = e' := by
  cases h with
  | keepOutOfRange hkeep _ =>
      cases h' with
      | keepOutOfRange hkeep' _ => grind
  | noFaces | noDice | tooManyDice | tooManyFaces | endlessExplosion =>
      cases h'
      rfl

theorem FirstObjection.unique (h : d.FirstObjection e) (h' : d.FirstObjection e') : e = e' := by
  obtain ⟨rank, he, hfirst⟩ := h
  obtain ⟨rank', he', hfirst'⟩ := h'
  obtain rfl := Nat.le_antisymm (hfirst _ _ he') (hfirst' _ _ he)
  exact objection_unique he he'

theorem refused_of_objection {rank : Nat} (h : d.Objection rank e) : d.Refused := by
  cases h <;> grind [Refused]

/-- A check finds its fault when those of lower rank have no objection. -/
theorem Objection.first {rank : Nat} (h : d.Objection rank e)
    (hlower : ∀ rank' e', rank' < rank → ¬ d.Objection rank' e') : d.FirstObjection e :=
  ⟨rank, h, fun rank' e' h' => Nat.le_of_not_lt fun hlt => hlower rank' e' hlt h'⟩

theorem firstObjection_of_fault? (h : d.fault? = some e) : d.FirstObjection e := by
  unfold fault? at h
  split at h
  · cases h
    refine Objection.first (.noFaces ?_) ?_ <;> grind
  split at h
  · cases h
    refine Objection.first (.noDice ?_) ?_ <;> grind
  split at h
  · cases h
    refine Objection.first (.tooManyDice ?_) ?_ <;> grind
  split at h
  · cases h
    refine Objection.first (.tooManyFaces ?_) ?_ <;> grind
  split at h
  · split at h
    · cases h
      refine Objection.first (.endlessExplosion ?_ ?_) ?_ <;> grind
    · cases h
  · split at h
    · cases h
      refine Objection.first (.keepOutOfRange ?_ ?_) ?_ <;> grind
    · cases h
  · split at h
    · cases h
      refine Objection.first (.keepOutOfRange ?_ ?_) ?_ <;> grind
    · cases h
  · cases h

/-- The fault of a roll is what the first check objects to that objects at all. -/
theorem fault?_eq_some_iff : d.fault? = some e ↔ d.FirstObjection e := by
  constructor
  · exact firstObjection_of_fault?
  · intro h
    obtain ⟨rank, he, -⟩ := id h
    obtain ⟨e', hfault⟩ := Option.ne_none_iff_exists'.mp (refused_iff.mp (refused_of_objection he))
    rw [hfault, h.unique (firstObjection_of_fault? hfault)]

theorem fault?_eq_none_iff : d.fault? = none ↔ ¬ d.Refused := by
  rw [refused_iff, ne_eq, Decidable.not_not]

theorem runOn_evaluate_of_fault? {σ : Type} {src : Source σ} (h : d.fault? = some e) (s : σ) :
    (d.evaluate src).runOn s = (.error e, s) := by
  rw [evaluate, h]
  rfl

end DiceRoll

theorem Constant.amount?_eq_none_iff {c : Constant} :
    c.amount? = none ↔ halfWordCount ≤ c.value.toNat := by
  simp [amount?]

namespace Term

/-- The term is refused before any die is thrown. -/
def Refused : Term → Prop
  | .dice d => d.Refused
  | .constant c => halfWordCount ≤ c.value.toNat

/-- The fault is what the first check of the term objects to that objects at all. -/
def FirstObjection : Term → EvaluationFault → Prop
  | .dice d, e => d.FirstObjection e
  | .constant c, e => halfWordCount ≤ c.value.toNat ∧ e = .constantTooLarge

theorem firstObjection_dice {d : DiceRoll} {e : EvaluationFault} :
    (Term.dice d).FirstObjection e ↔ d.fault? = some e := DiceRoll.fault?_eq_some_iff.symm

theorem firstObjection_constant {c : Constant} {e : EvaluationFault} :
    (Term.constant c).FirstObjection e ↔ c.amount? = none ∧ e = .constantTooLarge := by
  rw [FirstObjection, Constant.amount?_eq_none_iff]

theorem refused_iff {t : Term} : t.Refused ↔ ∃ e, t.FirstObjection e := by
  cases t with
  | dice d =>
      rw [Refused, DiceRoll.refused_iff, Option.ne_none_iff_exists']
      simp only [firstObjection_dice]
  | constant c => simp [Refused, FirstObjection]

end Term

end DiceNotation
