import DiceNotation.Proofs.GrandTotals
import DiceNotation.Proofs.Replay

/-! # Verdicts

Thresholds take no part in an evaluation. Another pair of bounds leaves the
draws, the failure or the results as they are, and only passes another judgement
on grand totals that have been found exact. So the totals, the verdicts and the
number of successes are all decided by the same exact sum of a batch.
-/

namespace DiceNotation

namespace Thresholds

/-- No bound is set. -/
def Unset (t : Thresholds) : Prop := t.min = none ∧ t.max = none

instance (t : Thresholds) : Decidable t.Unset := inferInstanceAs (Decidable (_ ∧ _))

/-- The number keeps to both bounds, as far as they are set. -/
def Meets (t : Thresholds) (n : Int) : Prop :=
  (∀ low ∈ t.min, low.toInt ≤ n) ∧ ∀ high ∈ t.max, n ≤ high.toInt

instance (t : Thresholds) (n : Int) : Decidable (t.Meets n) :=
  @instDecidableAnd _ _ (Option.decidableForallMem _) (Option.decidableForallMem _)

variable {t : Thresholds}

theorem isEmpty_iff : t.isEmpty = true ↔ t.Unset := by
  simp [isEmpty, Unset]

theorem admits_iff {total : Int64} : t.admits total = true ↔ t.Meets total.toInt := by
  obtain ⟨low, high⟩ := t
  cases low <;> cases high <;> simp [admits, Meets, Int64.le_iff_toInt_le]

theorem verdict_unset (h : t.Unset) (total : Int64) : t.verdict total = none :=
  if_pos (isEmpty_iff.mpr h)

theorem verdict_set (h : ¬t.Unset) (total : Int64) :
    t.verdict total = some (if t.Meets total.toInt then .success else .failure) := by
  rw [verdict, if_neg (mt isEmpty_iff.mp h)]
  simp only [admits_iff]

end Thresholds

/-- The batch as other thresholds judge it. -/
def BatchResult.judged (t : Thresholds) (r : BatchResult) : BatchResult :=
  { r with thresholds := t, verdict := t.verdict r.grandTotal }

def Results.judged (t : Thresholds) (R : Results) : Results := ⟨R.batches.map (·.judged t)⟩

section

variable {σ : Type} {src : Source σ} (t t' : Thresholds)

theorem BatchResult.judged_ofResults? (results : List TermResult) :
    (ofResults? results t).map (judged t') = ofResults? results t' := by
  rw [ofResults?, ofResults?, Option.map_map]
  rfl

theorem Batch.judged_evaluate (b : Batch) :
    BatchResult.judged t' <$> b.evaluate t src = b.evaluate t' src := by
  rw [evaluate, evaluate, map_bind]
  congr 1
  funext results
  rw [← BatchResult.judged_ofResults? t t' results]
  cases BatchResult.ofResults? results t <;> rfl

/-- An evaluation with other thresholds is the same evaluation, judged otherwise in the end. -/
theorem judged_evaluateAll (bs : List Batch) :
    Results.judged t' <$> evaluateAll bs t src = evaluateAll bs t' src := by
  have hmapM : List.map (BatchResult.judged t') <$> bs.mapM (·.evaluate t src) =
      bs.mapM (·.evaluate t' src) := by
    induction bs with
    | nil => simp
    | cons b bs ih =>
        simp only [List.mapM_cons, ← ih, ← b.judged_evaluate t t', map_bind, bind_map_left, map_pure,
          List.map_cons]
  rw [evaluateAll, evaluateAll, ← hmapM]
  simp [Results.judged]

end

theorem Rolling.runOn_map {σ α β : Type} (f : α → β) (m : Rolling σ α) (s : σ) :
    (f <$> m).runOn s = ((m.runOn s).1.map f, (m.runOn s).2) := by
  rw [map_eq_pure_bind, runOn_bind]
  cases m.runOn s with
  | mk outcome next => cases outcome <;> rfl

/-- The same terms, rolls, traces and totals, perhaps judged otherwise. -/
structure BatchResult.SameRoll (r r' : BatchResult) : Prop where
  results_eq : r.results = r'.results
  grandTotal_eq : r.grandTotal = r'.grandTotal

/-- The grand total is the exact sum of the totals, and the batch is judged by that sum. -/
structure BatchResult.JudgedBy (r : BatchResult) (t : Thresholds) : Prop where
  grandTotal_eq : r.grandTotal.toInt = exactTotal r.totals
  thresholds_eq : r.thresholds = t
  verdict_eq : r.verdict =
    if t.Unset then none else some (if t.Meets (exactTotal r.totals) then .success else .failure)

/-- The batches are judged by their exact sums, which are also listed and counted. -/
structure Results.JudgedBy (R : Results) (t : Thresholds) : Prop where
  each : ∀ r ∈ R.batches, r.JudgedBy t
  totals_eq : R.totals.map Int64.toInt = R.batches.map fun r => exactTotal r.totals
  successes_eq : R.successes =
    if t.Unset then 0 else R.batches.countP fun r => t.Meets (exactTotal r.totals)

theorem BatchResult.judgedBy_of_ofResults? {t : Thresholds} {results : List TermResult}
    {r : BatchResult} (h : ofResults? results t = some r) : r.JudgedBy t := by
  obtain ⟨g, hg, rfl⟩ := Option.map_eq_some_iff.mp h
  have hexact := (grandTotal?_eq_some_iff.mp hg).1
  refine ⟨hexact, rfl, ?_⟩
  change t.verdict g = if _ then _ else some (if t.Meets (exactTotal _) then _ else _)
  rw [totals, ← hexact]
  split
  · exact Thresholds.verdict_unset ‹_› g
  · exact Thresholds.verdict_set ‹_› g

theorem BatchResult.JudgedBy.success_iff {r : BatchResult} {t : Thresholds} (h : r.JudgedBy t) :
    r.verdict = some .success ↔ ¬t.Unset ∧ t.Meets (exactTotal r.totals) := by
  rw [h.verdict_eq]
  by_cases hunset : t.Unset
  · simp [hunset]
  · by_cases hmeets : t.Meets (exactTotal r.totals) <;> simp [hunset, hmeets]

theorem Results.judgedBy_of_forall {R : Results} {t : Thresholds}
    (h : ∀ r ∈ R.batches, r.JudgedBy t) : R.JudgedBy t := by
  refine ⟨h, ?_, ?_⟩
  · rw [totals, List.map_map]
    exact List.map_congr_left fun r hr => (h r hr).grandTotal_eq
  · have hcount : R.successes =
        R.batches.countP fun r => ¬t.Unset ∧ t.Meets (exactTotal r.totals) := by
      apply List.countP_congr
      intro r hr
      simp only [decide_eq_true_eq, (h r hr).success_iff]
    rw [hcount]
    split <;> simp [*]

theorem judgedBy_of_runOn {σ : Type} {src : Source σ} {s s' : σ} {bs : List Batch} {t : Thresholds}
    {R : Results} (h : (evaluateAll bs t src).runOn s = (.ok R, s')) : R.JudgedBy t := by
  obtain ⟨hyields, -⟩ := runOn_evaluateAll_eq_ok_iff.mp h
  apply Results.judgedBy_of_forall
  exact forall_mem_of_forall₂ (fun _ _ hb => BatchResult.judgedBy_of_ofResults? hb.2) hyields

/-- Two evaluations with different thresholds fail alike, or come to the same rolls and totals for
the terms of each batch, with the same draws. Either way the thresholds only judge, and they judge
exact sums. -/
theorem evaluateAll_under_thresholds {σ : Type} (src : Source σ) (s : σ) (bs : List Batch)
    (t t' : Thresholds) :
    (∃ e s', (evaluateAll bs t src).runOn s = (.error e, s') ∧
      (evaluateAll bs t' src).runOn s = (.error e, s')) ∨
    ∃ R R' s', (evaluateAll bs t src).runOn s = (.ok R, s') ∧
      (evaluateAll bs t' src).runOn s = (.ok R', s') ∧
      src.Serves R.throws s s' ∧
      List.Forall₂ (fun b r => r.results.map TermResult.term = b.terms) bs R.batches ∧
      List.Forall₂ BatchResult.SameRoll R.batches R'.batches ∧ R.JudgedBy t ∧ R'.JudgedBy t' := by
  have hother : (evaluateAll bs t' src).runOn s =
      (((evaluateAll bs t src).runOn s).1.map (Results.judged t'),
        ((evaluateAll bs t src).runOn s).2) := by
    rw [← judged_evaluateAll t t', Rolling.runOn_map]
  cases hrun : (evaluateAll bs t src).runOn s with
  | mk outcome s' =>
      rw [hrun] at hother
      cases outcome with
      | error e => exact .inl ⟨e, s', rfl, hother⟩
      | ok R =>
          obtain ⟨hyields, hserves⟩ := runOn_evaluateAll_eq_ok_iff.mp hrun
          refine .inr ⟨R, R.judged t', s', rfl, hother, hserves,
            hyields.imp fun _ _ hb => hb.map_term, ?_, judgedBy_of_runOn hrun,
            judgedBy_of_runOn hother⟩
          exact List.forall₂_map_right_iff.mpr (List.forall₂_same.mpr fun r _ => ⟨rfl, rfl⟩)

/-- Two batches, judged by bounds that no number keeps to and by a lower bound alone. -/
theorem evaluateAll_under_thresholds_crossed :
    let bs : List Batch := [⟨⟨"d6", false, 1, 6, none⟩, [.constant ⟨"-1", true, 1⟩]⟩,
      ⟨⟨"d6", false, 1, 6, none⟩, []⟩]
    ∃ R R' : Results,
      (evaluateAll bs ⟨some 5, some 3⟩ Script.source).runOn ⟨[6, 2, 1], .highest⟩ =
        (.ok R, ⟨[1], .highest⟩) ∧
      (evaluateAll bs ⟨some 5, none⟩ Script.source).runOn ⟨[6, 2, 1], .highest⟩ =
        (.ok R', ⟨[1], .highest⟩) ∧
      R.totals = [5, 2] ∧ R'.totals = [5, 2] ∧
      R.batches.map BatchResult.verdict = [some .failure, some .failure] ∧ R.successes = 0 ∧
      R'.batches.map BatchResult.verdict = [some .success, some .failure] ∧ R'.successes = 1 := by
  intro bs
  rcases evaluateAll_under_thresholds Script.source ⟨[6, 2, 1], .highest⟩ bs ⟨some 5, some 3⟩
    ⟨some 5, none⟩ with ⟨e, s', h, -⟩ | ⟨R, R', s', h, h', -, -, -, hjudged, hjudged'⟩
  · cases h
  · cases h
    cases h'
    exact ⟨_, _, rfl, rfl, rfl, rfl, rfl, hjudged.successes_eq, rfl, hjudged'.successes_eq⟩

end DiceNotation
