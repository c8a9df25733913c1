import DiceNotation.Proofs.Replay

/-! # Comparing results

Outcomes are compared by their values, and so are the results that hold them. A draw
gets its mark when it is recorded, by its value and its die alone. So among results
that are marked like this, those that compare equal are equal, marks included; and
whatever an evaluation returns is marked like this.
-/

namespace DiceNotation

/-- The mark is the one of this value on a die of so many faces. -/
structure Outcome.MarkedOn (o : Outcome) (faces : UInt64) : Prop where
  max_iff : o.critic = .max ↔ o.value = faces
  min_iff : o.critic = .min ↔ o.value = 1 ∧ faces ≠ 1

/-- All draws of the result bear the marks that they have on the dice of its term. -/
def TermResult.Marked (r : TermResult) : Prop :=
  ∀ o ∈ r.rolls.getD [], ∃ d, r.term = .dice d ∧ o.MarkedOn d.faces

def BatchResult.Marked (r : BatchResult) : Prop := ∀ c ∈ r.results, c.Marked

def Results.Marked (R : Results) : Prop := ∀ r ∈ R.batches, r.Marked

namespace Outcome

theorem markedOn_ofDraw (value faces : UInt64) : (ofDraw value faces).MarkedOn faces := by
  by_cases hmax : value = faces
  · subst hmax
    constructor <;> simp [ofDraw]
  · by_cases hone : value = 1
    · subst hone
      have hfaces : faces ≠ 1 := fun h => hmax h.symm
      constructor <;> simp [ofDraw, hmax, hfaces]
    · constructor <;> simp [ofDraw, hmax, hone]

theorem MarkedOn.ext {o o' : Outcome} {faces : UInt64} (h : o.MarkedOn faces)
    (h' : o'.MarkedOn faces) (hvalue : o.value = o'.value) : o = o' := by
  obtain ⟨hmax, hmin⟩ := h
  obtain ⟨hmax', hmin'⟩ := h'
  obtain ⟨value, critic⟩ := o
  obtain ⟨value', critic'⟩ := o'
  cases critic <;> cases critic' <;> simp_all

end Outcome

theorem Term.Yields.marked {t : Term} {r : TermResult} (h : t.Yields r) : r.Marked := by
  cases t with
  | dice d =>
      obtain ⟨-, vs, -, rfl⟩ := h
      intro o ho
      obtain ⟨v, -, rfl⟩ := List.mem_map.mp ho
      exact ⟨d, rfl, Outcome.markedOn_ofDraw v d.faces⟩
  | constant c =>
      obtain ⟨total, -, rfl⟩ := h
      intro o ho
      cases ho

theorem Batch.Yields.marked {b : Batch} {t : Thresholds} {r : BatchResult} (h : b.Yields t r) :
    r.Marked :=
  forall_mem_of_forall₂ (fun _ _ hc => Term.Yields.marked hc) h.1

theorem Results.marked_of_yields {bs : List Batch} {t : Thresholds} {R : Results}
    (h : List.Forall₂ (fun b r => b.Yields t r) bs R.batches) : R.Marked :=
  forall_mem_of_forall₂ (fun _ _ hr => Batch.Yields.marked hr) h

theorem TermResult.beq_iff {r r' : TermResult} : (r == r') = true ↔
    r.term = r'.term ∧ (r.rolls == r'.rolls) = true ∧ r.trace = r'.trace ∧ r.total = r'.total := by
  change (r.term == r'.term && (r.rolls == r'.rolls &&
    (r.trace == r'.trace && r.total == r'.total))) = true ↔ _
  simp only [Bool.and_eq_true, beq_iff_eq]

theorem BatchResult.beq_iff {r r' : BatchResult} : (r == r') = true ↔
    (r.results == r'.results) = true ∧ r.thresholds = r'.thresholds ∧
      r.grandTotal = r'.grandTotal ∧ r.verdict = r'.verdict := by
  change (r.results == r'.results && (r.thresholds == r'.thresholds &&
    (r.grandTotal == r'.grandTotal && r.verdict == r'.verdict))) = true ↔ _
  simp only [Bool.and_eq_true, beq_iff_eq]

theorem Results.beq_iff {R R' : Results} :
    (R == R') = true ↔ (R.batches == R'.batches) = true := Iff.rfl

instance : ReflBEq Outcome := ⟨by simp⟩

instance : ReflBEq TermResult := ⟨by simp [TermResult.beq_iff]⟩

instance : ReflBEq BatchResult := ⟨by simp [BatchResult.beq_iff]⟩

instance : ReflBEq Results := ⟨by simp [Results.beq_iff]⟩

theorem eq_of_beq_of_forall_mem {α : Type} [BEq α] {P : α → Prop}
    (h : ∀ a b, P a → P b → (a == b) = true → a = b) {as bs : List α} (has : ∀ a ∈ as, P a)
    (hbs : ∀ b ∈ bs, P b) (hbeq : (as == bs) = true) : as = bs := by
  induction as generalizing bs with
  | nil =>
      cases bs with
      | nil => rfl
      | cons _ _ => cases hbeq
  | cons a as ih =>
      cases bs with
      | nil => cases hbeq
      | cons b bs =>
          obtain ⟨ha, has⟩ := List.forall_mem_cons.mp has
          obtain ⟨hb, hbs⟩ := List.forall_mem_cons.mp hbs
          obtain ⟨hfirst, hrest⟩ := Bool.and_eq_true_iff.mp hbeq
          rw [h a b ha hb hfirst, ih has hbs hrest]

/-- The draws that compare equal were made on equal dice, so their marks are equal too. -/
theorem TermResult.Marked.eq_of_beq {r r' : TermResult} (h : r.Marked) (h' : r'.Marked)
    (hbeq : (r == r') = true) : r = r' := by
  obtain ⟨hterm, hrolls, htrace, htotal⟩ := TermResult.beq_iff.mp hbeq
  obtain ⟨term, rolls, trace, total⟩ := r
  obtain ⟨term', rolls', trace', total'⟩ := r'
  obtain rfl : term = term' := hterm
  have hsame : rolls = rolls' := by
    cases rolls with
    | none =>
        cases rolls' with
        | none => rfl
        | some _ => cases hrolls
    | some os =>
        cases rolls' with
        | none => cases hrolls
        | some os' =>
            refine congrArg some (eq_of_beq_of_forall_mem ?_ h h' hrolls)
            rintro o o' ⟨d, hd, ho⟩ ⟨d', hd', ho'⟩ hvalue
            obtain rfl : d = d' := Term.dice.inj (hd.symm.trans hd')
            exact ho.ext ho' ((Outcome.beq_iff o o').mp hvalue)
  simp_all only

theorem BatchResult.Marked.eq_of_beq {r r' : BatchResult} (h : r.Marked) (h' : r'.Marked)
    (hbeq : (r == r') = true) : r = r' := by
  obtain ⟨hresults, hthresholds, htotal, hverdict⟩ := BatchResult.beq_iff.mp hbeq
  have hsame := eq_of_beq_of_forall_mem (fun _ _ => TermResult.Marked.eq_of_beq) h h' hresults
  obtain ⟨results, thresholds, grandTotal, verdict⟩ := r
  simp_all only

theorem Results.Marked.eq_of_beq {R R' : Results} (h : R.Marked) (h' : R'.Marked)
    (hbeq : (R == R') = true) : R = R' :=
  congrArg Results.mk (eq_of_beq_of_forall_mem (fun _ _ => BatchResult.Marked.eq_of_beq) h h'
    (Results.beq_iff.mp hbeq))

/-- Results of evaluations compare equal exactly when they are equal, marks included. -/
theorem Results.beq_iff_eq {bs bs' : List Batch} {t t' : Thresholds} {R R' : Results}
    (h : List.Forall₂ (fun b r => b.Yields t r) bs R.batches)
    (h' : List.Forall₂ (fun b r => b.Yields t' r) bs' R'.batches) :
    (R == R') = true ↔ R = R' := by
  constructor
  · exact (marked_of_yields h).eq_of_beq (marked_of_yields h')
  · rintro rfl
    exact BEq.rfl

end DiceNotation
