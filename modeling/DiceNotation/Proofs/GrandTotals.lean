import DiceNotation.Proofs.Draws

/-! # Grand totals

The totals of a batch are added up from the left, and every partial sum has to
fit a signed word. So a batch whose terms all succeed overflows exactly when some
first terms do not fit together, even if later ones would bring the sum back. A
grand total that is returned is the exact sum, whatever the order of the terms.
-/

namespace DiceNotation

/-- The number is one of a signed 64-bit word. -/
def FitsTotal (n : Int) : Prop := -halfWordCount ≤ n ∧ n < halfWordCount

instance (n : Int) : Decidable (FitsTotal n) := inferInstanceAs (Decidable (_ ∧ _))

/-- The exact sum of totals. -/
def exactTotal (totals : List Int64) : Int := totals.foldr (fun t n => t.toInt + n) 0

theorem fitsTotal_toInt (t : Int64) : FitsTotal t.toInt := ⟨t.le_toInt, t.toInt_lt⟩

theorem exactTotal_cons (t : Int64) (ts : List Int64) :
    exactTotal (t :: ts) = t.toInt + exactTotal ts := rfl

theorem exactTotal_perm {ts us : List Int64} (h : ts.Perm us) : exactTotal ts = exactTotal us := by
  induction h with
  | nil => rfl
  | cons t _ ih => rw [exactTotal_cons, exactTotal_cons, ih]
  | swap t u ts =>
      simp only [exactTotal_cons]
      omega
  | trans _ _ ih ih' => exact ih.trans ih'

theorem addTotals?_eq_some_iff {a b c : Int64} :
    addTotals? a b = some c ↔ c.toInt = a.toInt + b.toInt := by
  unfold addTotals? toInt64?
  constructor
  · intro h
    split at h
    · rename_i hfits
      cases h
      exact Int64.toInt_ofInt_of_le hfits.1 hfits.2
    · cases h
  · intro h
    rw [← h]
    exact (if_pos (fitsTotal_toInt c)).trans (congrArg some (Int64.ofInt_toInt c))

theorem exists_addTotals? {a b : Int64} (h : FitsTotal (a.toInt + b.toInt)) :
    ∃ c, addTotals? a b = some c := ⟨_, if_pos h⟩

theorem foldlM_addTotals?_eq_some_iff {totals : List Int64} {a g : Int64} :
    totals.foldlM addTotals? a = some g ↔
      g.toInt = a.toInt + exactTotal totals ∧
        ∀ k ≤ totals.length, FitsTotal (a.toInt + exactTotal (totals.take k)) := by
  induction totals generalizing a with
  | nil =>
      have hexact : a.toInt + exactTotal [] = a.toInt := Int.add_zero _
      simp only [List.foldlM_nil, List.take_nil, hexact, fitsTotal_toInt, implies_true, and_true]
      exact ⟨fun h => by cases h; rfl, fun h => congrArg some (Int64.toInt_inj.mp h.symm)⟩
  | cons t ts ih =>
      rw [List.foldlM_cons, Option.bind_eq_bind, Option.bind_eq_some_iff]
      constructor
      · rintro ⟨c, hc, hrest⟩
        obtain ⟨hg, hfits⟩ := ih.mp hrest
        rw [addTotals?_eq_some_iff] at hc
        rw [hc] at hg hfits
        refine ⟨by rw [hg, exactTotal_cons, Int.add_assoc], ?_⟩
        intro k hk
        cases k with
        | zero => simpa [exactTotal] using fitsTotal_toInt a
        | succ k =>
            rw [List.take_succ_cons, exactTotal_cons, ← Int.add_assoc]
            exact hfits k (Nat.le_of_succ_le_succ hk)
      · rintro ⟨hg, hfits⟩
        have hfirst : FitsTotal (a.toInt + t.toInt) := by
          simpa [exactTotal] using hfits 1 (by simp)
        obtain ⟨c, hc⟩ := exists_addTotals? hfirst
        have hsum := addTotals?_eq_some_iff.mp hc
        refine ⟨c, hc, ih.mpr ⟨?_, ?_⟩⟩
        · rw [hg, hsum, exactTotal_cons, Int.add_assoc]
        · intro k hk
          have hk' := hfits (k + 1) (Nat.succ_le_succ hk)
          rwa [List.take_succ_cons, exactTotal_cons, ← Int.add_assoc, ← hsum] at hk'

theorem grandTotal?_eq_some_iff {totals : List Int64} {g : Int64} :
    grandTotal? totals = some g ↔
      g.toInt = exactTotal totals ∧
        ∀ k ≤ totals.length, FitsTotal (exactTotal (totals.take k)) := by
  rw [grandTotal?, foldlM_addTotals?_eq_some_iff]
  simp

theorem exists_grandTotal? {totals : List Int64}
    (h : ∀ k ≤ totals.length, FitsTotal (exactTotal (totals.take k))) :
    ∃ g, grandTotal? totals = some g := by
  have hall := h totals.length (Nat.le_refl _)
  rw [List.take_length] at hall
  exact ⟨Int64.ofInt (exactTotal totals),
    grandTotal?_eq_some_iff.mpr ⟨Int64.toInt_ofInt_of_le hall.1 hall.2, h⟩⟩

theorem grandTotal?_eq_none_iff {totals : List Int64} :
    grandTotal? totals = none ↔ ∃ k ≤ totals.length, ¬ FitsTotal (exactTotal (totals.take k)) := by
  constructor
  · intro h
    refine Classical.byContradiction fun hnone => ?_
    obtain ⟨g, hg⟩ := exists_grandTotal? fun k hk =>
      Decidable.byContradiction fun hbad => hnone ⟨k, hk, hbad⟩
    rw [h] at hg
    cases hg
  · rintro ⟨k, hk, hbad⟩
    refine Option.eq_none_iff_forall_ne_some.mpr ?_
    intro g hg
    exact hbad ((grandTotal?_eq_some_iff.mp hg).2 k hk)

/-- Evaluates the terms of a batch in order, without adding them up. -/
def Batch.evaluateTerms {σ : Type} (b : Batch) (src : Source σ) : Rolling σ (List TermResult) :=
  b.terms.mapM (·.evaluate src)

theorem Batch.runOn_evaluate_of_terms {σ : Type} {src : Source σ} {s s' : σ} {b : Batch}
    {thresholds : Thresholds} {results : List TermResult}
    (h : (b.evaluateTerms src).runOn s = (.ok results, s')) :
    (b.evaluate thresholds src).runOn s =
      match grandTotal? (results.map TermResult.total) with
      | some g => (.ok ⟨results, thresholds, g, thresholds.verdict g⟩, s')
      | none => (.error .grandTotalOverflow, s') := by
  refine (Rolling.runOn_bind_ok h _).trans ?_
  rw [BatchResult.ofResults?]
  cases grandTotal? (results.map TermResult.total) <;> rfl

theorem Batch.toInt_grandTotal {σ : Type} {src : Source σ} {s s' : σ} {b : Batch}
    {thresholds : Thresholds} {results : List TermResult} {r : BatchResult}
    (h : (b.evaluateTerms src).runOn s = (.ok results, s'))
    (hr : (b.evaluate thresholds src).runOn s = (.ok r, s')) :
    r.grandTotal.toInt = exactTotal (results.map TermResult.total) := by
  rw [runOn_evaluate_of_terms h] at hr
  cases hg : grandTotal? (results.map TermResult.total) with
  | none =>
      rw [hg] at hr
      cases hr
  | some g =>
      rw [hg] at hr
      cases hr
      exact (grandTotal?_eq_some_iff.mp hg).1

/-- If all terms of a batch succeed, the batch overflows exactly when the totals of some first terms
do not fit together, and else its grand total is the exact sum. So batches whose totals are the same
in another order have the same grand total, if they have one. -/
theorem evaluate_grandTotal {σ : Type} (src : Source σ) (s s' : σ) (b : Batch)
    (thresholds : Thresholds) (results : List TermResult)
    (h : (b.evaluateTerms src).runOn s = (.ok results, s')) :
    ((b.evaluate thresholds src).runOn s = (.error .grandTotalOverflow, s') ↔
      ∃ k ≤ results.length, ¬ FitsTotal (exactTotal ((results.map TermResult.total).take k))) ∧
    ((∀ k ≤ results.length, FitsTotal (exactTotal ((results.map TermResult.total).take k))) →
      ∃ r, (b.evaluate thresholds src).runOn s = (.ok r, s') ∧
        r.grandTotal.toInt = exactTotal (results.map TermResult.total)) ∧
    ∀ {τ : Type} (src' : Source τ) (t t' : τ) (b' : Batch) (results' : List TermResult),
      (b'.evaluateTerms src').runOn t = (.ok results', t') →
      (results'.map TermResult.total).Perm (results.map TermResult.total) →
      ∀ r r', (b.evaluate thresholds src).runOn s = (.ok r, s') →
        (b'.evaluate thresholds src').runOn t = (.ok r', t') → r'.grandTotal = r.grandTotal := by
  have hlength : (results.map TermResult.total).length = results.length := List.length_map _
  refine ⟨?_, ?_, ?_⟩
  · rw [Batch.runOn_evaluate_of_terms h, ← hlength, ← grandTotal?_eq_none_iff]
    cases grandTotal? (results.map TermResult.total) <;> simp
  · intro hfits
    rw [← hlength] at hfits
    obtain ⟨g, hg⟩ := exists_grandTotal? hfits
    rw [Batch.runOn_evaluate_of_terms h, hg]
    exact ⟨_, rfl, (grandTotal?_eq_some_iff.mp hg).1⟩
  · intro τ src' t t' b' results' h' hperm r r' hr hr'
    rw [← Int64.toInt_inj, Batch.toInt_grandTotal h hr, Batch.toInt_grandTotal h' hr',
      exactTotal_perm hperm]

/-- The largest grand total is returned, and a sum that is one above it on the way is not. -/
theorem evaluate_grandTotal_largest :
    let d6 : DiceRoll := ⟨"d6", false, 1, 6, none⟩
    let up : Term := .constant ⟨"+9223372036854775806", false, 9223372036854775806⟩
    let one : Term := .constant ⟨"+1", false, 1⟩
    let down : Term := .constant ⟨"-1", true, 1⟩
    (∃ r, ((⟨d6, [up]⟩ : Batch).evaluate .unbounded Script.source).runOn ⟨[1], .highest⟩ =
        (.ok r, ⟨[], .highest⟩) ∧ r.grandTotal.toInt = 9223372036854775807) ∧
      ((⟨d6, [up, one, down]⟩ : Batch).evaluate .unbounded Script.source).runOn ⟨[1], .highest⟩ =
        (.error .grandTotalOverflow, ⟨[], .highest⟩) := by
  intro d6 up one down
  let drawn : TermResult := ⟨.dice d6, some [.ofDraw 1 6], some (traceText [1] 1 false), 1⟩
  let raised : TermResult := ⟨up, none, none, 9223372036854775806⟩
  constructor
  · obtain ⟨r, hr, hsum⟩ := (evaluate_grandTotal Script.source ⟨[1], .highest⟩ ⟨[], .highest⟩
      ⟨d6, [up]⟩ .unbounded [drawn, raised] rfl).2.1 (by decide)
    exact ⟨r, hr, hsum.trans (by decide)⟩
  · exact (evaluate_grandTotal Script.source ⟨[1], .highest⟩ ⟨[], .highest⟩ ⟨d6, [up, one, down]⟩
      .unbounded [drawn, raised, ⟨one, none, none, 1⟩, ⟨down, none, none, -1⟩] rfl).1.mpr
      ⟨3, by decide, by decide⟩

/-- The exact sum of all totals does not decide an overflow: here it is 6, in either order of the
constants, but only one of the orders succeeds. -/
theorem evaluate_overflow_within_range :
    let d6 : DiceRoll := ⟨"d6", false, 1, 6, none⟩
    let up : Term := .constant ⟨"+9223372036854775807", false, 9223372036854775807⟩
    let down : Term := .constant ⟨"-9223372036854775807", true, 9223372036854775807⟩
    (∃ results, ((⟨d6, [up, down]⟩ : Batch).evaluateTerms Script.source).runOn ⟨[6], .highest⟩ =
        (.ok results, ⟨[], .highest⟩) ∧ exactTotal (results.map TermResult.total) = 6) ∧
      ((⟨d6, [up, down]⟩ : Batch).evaluate .unbounded Script.source).runOn ⟨[6], .highest⟩ =
        (.error .grandTotalOverflow, ⟨[], .highest⟩) ∧
      ∃ r, ((⟨d6, [down, up]⟩ : Batch).evaluate .unbounded Script.source).runOn ⟨[6], .highest⟩ =
        (.ok r, ⟨[], .highest⟩) ∧ r.grandTotal.toInt = 6 :=
  ⟨⟨_, rfl, rfl⟩, rfl, ⟨_, rfl, rfl⟩⟩

end DiceNotation
