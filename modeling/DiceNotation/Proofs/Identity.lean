import DiceNotation.Proofs.Comparison
import DiceNotation.Proofs.Seeds
import DiceNotation.Serial.Model
import DiceNotation.View

/-! # Equal results of evaluations

Comparing looks at the values of draws and not at their marks. This is sound for the
results of a term, of a batch or of several batches that some evaluation came to,
with whatever source or seed: all draws of theirs are marked by value and die, so
results that compare equal are written and shown alike.
-/

namespace DiceNotation

/-- Some evaluation of a term came to this result. -/
def TermResult.Evaluated (r : TermResult) : Prop :=
  ∃ (σ : Type) (src : Source σ) (s s' : σ) (t : Term), (t.evaluate src).runOn s = (.ok r, s')

/-- Some evaluation of a batch came to this result. -/
def BatchResult.Evaluated (r : BatchResult) : Prop :=
  ∃ (σ : Type) (src : Source σ) (s s' : σ) (b : Batch) (t : Thresholds),
    (b.evaluate t src).runOn s = (.ok r, s')

/-- Some evaluation of batches came to these results, from one source or from a seed. -/
inductive Results.Evaluated (R : Results) : Prop where
  | drawn {σ : Type} {src : Source σ} {s s' : σ} {bs : List Batch} {t : Thresholds}
      (h : (evaluateAll bs t src).runOn s = (.ok R, s'))
  | seeded {t : Thresholds} {seed : UInt64} {bs : List Batch}
      (h : evaluateSeeded t seed bs = .ok R.batches)

theorem TermResult.Evaluated.marked {r : TermResult} (h : r.Evaluated) : r.Marked := by
  obtain ⟨σ, src, s, s', t, hrun⟩ := h
  exact (Term.runOn_evaluate_eq_ok_iff.mp hrun).1.marked

theorem BatchResult.Evaluated.marked {r : BatchResult} (h : r.Evaluated) : r.Marked := by
  obtain ⟨σ, src, s, s', b, t, hrun⟩ := h
  exact (Batch.runOn_evaluate_eq_ok_iff.mp hrun).1.marked

theorem Batch.evaluated_of_evaluateFresh {b : Batch} {t : Thresholds} {seed : UInt64}
    {r : BatchResult} (h : b.evaluateFresh t seed = .ok r) : r.Evaluated :=
  ⟨_, Generator.source, Generator.ofSeed seed, _, b, t, Prod.ext h rfl⟩

theorem evaluated_of_evaluateSeeded {t : Thresholds} {seed : UInt64} {bs : List Batch}
    {rs : List BatchResult} (h : evaluateSeeded t seed bs = .ok rs) : ∀ r ∈ rs, r.Evaluated := by
  induction bs generalizing seed rs with
  | nil =>
      cases h
      simp
  | cons b bs ih =>
      obtain ⟨r, hb, rs', hbs, rfl⟩ := evaluateSeeded_cons_eq_ok_iff.mp h
      exact List.forall_mem_cons.mpr ⟨b.evaluated_of_evaluateFresh hb, ih hbs⟩

theorem Results.Evaluated.marked {R : Results} (h : R.Evaluated) : R.Marked := by
  cases h with
  | drawn h => exact marked_of_yields (runOn_evaluateAll_eq_ok_iff.mp h).1
  | seeded h => exact fun r hr => (evaluated_of_evaluateSeeded h r hr).marked

/-- Evaluations mark every draw by its value and its die. So if results of theirs compare equal,
they agree in every field, the marks included, and are written and shown alike. -/
theorem evaluated_eq_of_beq :
    (∀ r : TermResult, r.Evaluated → r.Marked ∧
      ∀ r' : TermResult, r'.Evaluated → (r == r') = true →
        r = r' ∧ r.toValue = r'.toValue ∧ r.ron = r'.ron) ∧
    (∀ r : BatchResult, r.Evaluated → r.Marked ∧
      ∀ r' : BatchResult, r'.Evaluated → (r == r') = true →
        r = r' ∧ r.toValue = r'.toValue ∧ r.ron = r'.ron ∧
          ∀ formula, r.compact formula = r'.compact formula ∧
            ∀ index count, r.verbose formula index count = r'.verbose formula index count) ∧
    ∀ R : Results, R.Evaluated → R.Marked ∧
      ∀ R' : Results, R'.Evaluated → (R == R') = true →
        R = R' ∧ R.toValue = R'.toValue ∧
          ∀ format formula, R.render format formula = R'.render format formula := by
  refine ⟨?term, ?batch, ?batches⟩
  case term =>
    intro r h
    refine ⟨h.marked, ?_⟩
    intro r' h' hbeq
    obtain rfl := h.marked.eq_of_beq h'.marked hbeq
    exact ⟨rfl, rfl, rfl⟩
  case batch =>
    intro r h
    refine ⟨h.marked, ?_⟩
    intro r' h' hbeq
    obtain rfl := h.marked.eq_of_beq h'.marked hbeq
    exact ⟨rfl, rfl, rfl, fun _ => ⟨rfl, fun _ _ => rfl⟩⟩
  case batches =>
    intro R h
    refine ⟨h.marked, ?_⟩
    intro R' h' hbeq
    obtain rfl := h.marked.eq_of_beq h'.marked hbeq
    exact ⟨rfl, rfl, fun _ _ => rfl⟩

/-- A script and a source that also counts its draws: an explosion, a one on a die with more faces
and a one on a die with no other face. -/
theorem evaluated_eq_of_beq_counted :
    let bs : List Batch := [⟨⟨"d6!", false, 1, 6, some (.explode 0)⟩,
      [.dice ⟨"-d4", true, 1, 4, none⟩, .dice ⟨"+d1", false, 1, 1, none⟩]⟩]
    ∃ R R' : Results,
      (evaluateAll bs .unbounded Script.source).runOn ⟨[6, 2, 1, 1], .highest⟩ =
        (.ok R, ⟨[], .highest⟩) ∧
      (evaluateAll bs .unbounded Script.source.counted).runOn (⟨[6, 2, 1, 1], .highest⟩, 0) =
        (.ok R', ⟨[], .highest⟩, 4) ∧
      R.batches.flatMap (fun r => r.results.flatMap TermResult.critics) = [.max, .min, .max] ∧
      R = R' ∧ R.toValue = R'.toValue := by
  intro bs
  obtain ⟨R, R', h, h', hcritics, hbeq⟩ : ∃ R R' : Results,
      (evaluateAll bs .unbounded Script.source).runOn ⟨[6, 2, 1, 1], .highest⟩ =
        (.ok R, ⟨[], .highest⟩) ∧
      (evaluateAll bs .unbounded Script.source.counted).runOn (⟨[6, 2, 1, 1], .highest⟩, 0) =
        (.ok R', ⟨[], .highest⟩, 4) ∧
      R.batches.flatMap (fun r => r.results.flatMap TermResult.critics) = [.max, .min, .max] ∧
      (R == R') = true := ⟨_, _, rfl, rfl, rfl, rfl⟩
  obtain ⟨heq, hvalue, -⟩ := (evaluated_eq_of_beq.2.2 R (.drawn h)).2 R' (.drawn h') hbeq
  exact ⟨R, R', h, h', hcritics, heq, hvalue⟩

end DiceNotation
