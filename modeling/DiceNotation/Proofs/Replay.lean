import DiceNotation.Proofs.Terms
import Mathlib.Data.List.Forall2

/-! # Recording and replaying draws

The results of an evaluation hold every value that the source served, once and
in order, and nothing else about the source matters: whatever serves the same
throws leads to the same results. So the log of a source can be read off the
results, and a script of the recorded values evaluates to them again.
-/

namespace DiceNotation

namespace TermResult

def values (r : TermResult) : List UInt64 := (r.rolls.getD []).map Outcome.value

/-- The dice that were thrown for the recorded values. -/
def throws (r : TermResult) : List Throw :=
  match r.term with
  | .dice d => r.values.map (Throw.mk d.faces)
  | .constant _ => []

end TermResult

namespace BatchResult

def values (r : BatchResult) : List UInt64 := r.results.flatMap TermResult.values

def throws (r : BatchResult) : List Throw := r.results.flatMap TermResult.throws

end BatchResult

namespace Results

def values (R : Results) : List UInt64 := R.batches.flatMap BatchResult.values

def throws (R : Results) : List Throw := R.batches.flatMap BatchResult.throws

end Results

/-- The result is one that the term can have, whatever the source. -/
def Term.Yields (t : Term) (r : TermResult) : Prop :=
  match t with
  | .dice d => d.fault? = none ∧ ∃ vs, d.Completes vs ∧ r = d.result vs
  | .constant c => ∃ total, c.amount? = some total ∧ r = ⟨.constant c, none, none, total⟩

def Batch.Yields (b : Batch) (thresholds : Thresholds) (r : BatchResult) : Prop :=
  List.Forall₂ Term.Yields b.terms r.results ∧
    BatchResult.ofResults? r.results thresholds = some r

namespace Term.Yields

theorem term_eq {t : Term} {r : TermResult} (h : t.Yields r) : r.term = t := by
  cases t with
  | dice d =>
      obtain ⟨-, vs, -, rfl⟩ := h
      rfl
  | constant c =>
      obtain ⟨total, -, rfl⟩ := h
      rfl

theorem map_value_throws {t : Term} {r : TermResult} (h : t.Yields r) :
    r.throws.map Throw.value = r.values := by
  cases t with
  | dice d =>
      obtain ⟨-, vs, -, rfl⟩ := h
      simp [TermResult.throws, DiceRoll.result, Function.comp_def]
  | constant c =>
      obtain ⟨total, -, rfl⟩ := h
      rfl

end Term.Yields

variable {σ : Type} {src : Source σ} {s s' : σ}

theorem DiceRoll.serves_result {d : DiceRoll} {vs : List UInt64} :
    src.Serves (d.result vs).throws s s' ↔ src.Draws d.faces vs s s' := by
  have hthrows : (d.result vs).throws = vs.map (Throw.mk d.faces) := by
    simp [TermResult.throws, TermResult.values, result, Function.comp_def]
  rw [hthrows, Source.Draws]

theorem Term.runOn_evaluate_eq_ok_iff {t : Term} {r : TermResult} :
    (t.evaluate src).runOn s = (.ok r, s') ↔ t.Yields r ∧ src.Serves r.throws s s' := by
  cases t with
  | dice d =>
      rw [Term.evaluate, DiceRoll.runOn_evaluate_eq_ok_iff]
      constructor
      · intro h
        obtain ⟨hfault, vs, hvs, hdraws, rfl⟩ := h
        exact ⟨⟨hfault, vs, hvs, rfl⟩, DiceRoll.serves_result.mpr hdraws⟩
      · intro h
        obtain ⟨⟨hfault, vs, hvs, rfl⟩, hserves⟩ := h
        exact ⟨hfault, vs, hvs, DiceRoll.serves_result.mp hserves, rfl⟩
  | constant c =>
      unfold Term.evaluate
      constructor
      · intro h
        cases hamount : c.amount? with
        | none =>
            simp only [hamount] at h
            cases h
        | some total =>
            simp only [hamount] at h
            cases h
            exact ⟨⟨total, hamount, rfl⟩, rfl⟩
      · intro h
        obtain ⟨⟨total, hamount, rfl⟩, hserves⟩ := h
        obtain rfl := Source.serves_nil.mp hserves
        simp only [hamount]
        rfl

theorem Rolling.runOn_mapM_eq_ok_iff {α β : Type} {f : α → Rolling σ β} {P : α → β → Prop}
    {throws : β → List Throw}
    (h : ∀ a b s s', (f a).runOn s = (.ok b, s') ↔ P a b ∧ src.Serves (throws b) s s')
    {as : List α} {bs : List β} :
    (as.mapM f).runOn s = (.ok bs, s') ↔
      List.Forall₂ P as bs ∧ src.Serves (bs.flatMap throws) s s' := by
  induction as generalizing bs s with
  | nil =>
      constructor
      · intro hrun
        cases hrun
        exact ⟨.nil, rfl⟩
      · intro hrun
        obtain ⟨hnil, hserves⟩ := hrun
        cases hnil
        cases hserves
        rfl
  | cons a as ih =>
      rw [List.mapM_cons, runOn_bind_eq_ok_iff]
      constructor
      · intro hrun
        obtain ⟨b, next, hb, hrest⟩ := hrun
        obtain ⟨bs', last, hbs, hlast⟩ := runOn_bind_eq_ok_iff.mp hrest
        cases hlast
        obtain ⟨hP, hfirst⟩ := (h a b s next).mp hb
        obtain ⟨hPs, hlater⟩ := ih.mp hbs
        exact ⟨.cons hP hPs, Source.serves_append.mpr ⟨next, hfirst, hlater⟩⟩
      · intro hrun
        obtain ⟨hall, hserves⟩ := hrun
        cases hall with
        | cons hP hPs =>
            obtain ⟨next, hfirst, hlater⟩ := Source.serves_append.mp hserves
            refine ⟨_, next, (h _ _ _ _).mpr ⟨hP, hfirst⟩, ?_⟩
            rw [runOn_bind_ok (ih.mpr ⟨hPs, hlater⟩)]
            rfl

theorem BatchResult.results_of_ofResults? {results : List TermResult} {thresholds : Thresholds}
    {r : BatchResult} (h : ofResults? results thresholds = some r) : r.results = results := by
  obtain ⟨total, -, rfl⟩ := Option.map_eq_some_iff.mp h
  rfl

theorem Batch.runOn_evaluate_eq_ok_iff {b : Batch} {thresholds : Thresholds} {r : BatchResult} :
    (b.evaluate thresholds src).runOn s = (.ok r, s') ↔
      b.Yields thresholds r ∧ src.Serves r.throws s s' := by
  rw [Batch.evaluate, Rolling.runOn_bind_eq_ok_iff]
  constructor
  · intro h
    obtain ⟨results, next, hresults, hsum⟩ := h
    obtain ⟨hyields, hserves⟩ :=
      (Rolling.runOn_mapM_eq_ok_iff fun _ _ _ _ => Term.runOn_evaluate_eq_ok_iff).mp hresults
    cases hr : BatchResult.ofResults? results thresholds with
    | none =>
        simp only [hr] at hsum
        cases hsum
    | some r' =>
        simp only [hr] at hsum
        cases hsum
        obtain rfl := BatchResult.results_of_ofResults? hr
        exact ⟨⟨hyields, hr⟩, hserves⟩
  · intro h
    obtain ⟨⟨hyields, hsum⟩, hserves⟩ := h
    refine ⟨r.results, s', ?_, ?_⟩
    · exact (Rolling.runOn_mapM_eq_ok_iff fun _ _ _ _ => Term.runOn_evaluate_eq_ok_iff).mpr
        ⟨hyields, hserves⟩
    · rw [hsum]
      rfl

/-- An evaluation succeeds with the results that its batches can have, on the throws they record.
So the results depend on the source through the values it serves only. -/
theorem runOn_evaluateAll_eq_ok_iff {bs : List Batch} {thresholds : Thresholds} {R : Results} :
    (evaluateAll bs thresholds src).runOn s = (.ok R, s') ↔
      List.Forall₂ (fun b r => b.Yields thresholds r) bs R.batches ∧
        src.Serves R.throws s s' := by
  rw [evaluateAll, Rolling.runOn_bind_eq_ok_iff]
  constructor
  · intro h
    obtain ⟨results, next, hresults, hlast⟩ := h
    cases hlast
    exact (Rolling.runOn_mapM_eq_ok_iff fun _ _ _ _ => Batch.runOn_evaluate_eq_ok_iff).mp hresults
  · intro h
    refine ⟨R.batches, s', ?_, rfl⟩
    exact (Rolling.runOn_mapM_eq_ok_iff fun _ _ _ _ => Batch.runOn_evaluate_eq_ok_iff).mpr h

theorem forall_mem_of_forall₂ {α β : Type} {P : α → β → Prop} {Q : β → Prop}
    (hQ : ∀ a b, P a b → Q b) {as : List α} {bs : List β} (h : List.Forall₂ P as bs) :
    ∀ b ∈ bs, Q b := by
  induction h with
  | nil => simp
  | cons hfirst _ ih => exact List.forall_mem_cons.mpr ⟨hQ _ _ hfirst, ih⟩

theorem map_value_flatMap {α β : Type} {P : α → β → Prop} {throws : β → List Throw}
    {values : β → List UInt64} (hP : ∀ a b, P a b → (throws b).map Throw.value = values b)
    {as : List α} {bs : List β} (h : List.Forall₂ P as bs) :
    (bs.flatMap throws).map Throw.value = bs.flatMap values := by
  induction h with
  | nil => rfl
  | cons hfirst _ ih =>
      rw [List.flatMap_cons, List.flatMap_cons, List.map_append, hP _ _ hfirst, ih]

namespace Batch.Yields

variable {b : Batch} {thresholds : Thresholds} {r : BatchResult}

theorem map_value_throws (h : b.Yields thresholds r) : r.throws.map Throw.value = r.values :=
  map_value_flatMap (fun _ _ ht => Term.Yields.map_value_throws ht) h.1

theorem map_term (h : b.Yields thresholds r) : r.results.map TermResult.term = b.terms := by
  have hterms : List.Forall₂ (fun t (c : TermResult) => t = c.term) b.terms r.results :=
    h.1.imp fun _ _ ht => ht.term_eq.symm
  exact (List.forall₂_eq_eq_eq ▸ List.forall₂_map_right_iff.mpr hterms).symm

end Batch.Yields

/-- A successful evaluation records every value that the source served, once and in order, beside
the terms of its batches; and a script of the recorded values leads to the same results and is then
used up. -/
theorem evaluateAll_recorded {σ : Type} (src : Source σ) (s s' : σ) (bs : List Batch)
    (thresholds : Thresholds) (R : Results)
    (h : (evaluateAll bs thresholds src).runOn s = (.ok R, s')) :
    (evaluateAll bs thresholds src.logged).runOn (s, []) = (.ok R, (s', R.values)) ∧
      List.Forall₂ (fun b r => r.results.map TermResult.term = b.terms) bs R.batches ∧
      ∀ ending, (evaluateAll bs thresholds Script.source).runOn ⟨R.values, ending⟩ =
        (.ok R, ⟨[], ending⟩) := by
  obtain ⟨hyields, hserves⟩ := runOn_evaluateAll_eq_ok_iff.mp h
  have hvalues : R.throws.map Throw.value = R.values :=
    map_value_flatMap (fun _ _ hb => Batch.Yields.map_value_throws hb) hyields
  refine ⟨?_, hyields.imp fun _ _ hb => hb.map_term, ?_⟩
  · have hlogged := hserves.logged []
    rw [hvalues, List.nil_append] at hlogged
    exact runOn_evaluateAll_eq_ok_iff.mpr ⟨hyields, hlogged⟩
  · intro ending
    have hscript := Script.serves R.throws [] ending
    rw [hvalues, List.append_nil] at hscript
    exact runOn_evaluateAll_eq_ok_iff.mpr ⟨hyields, hscript⟩

/-- An explosion, a dropped die and a constant: the script's last value is not needed. -/
theorem evaluateAll_recorded_mixed :
    let bs : List Batch := [⟨⟨"d6!", false, 1, 6, some (.explode 0)⟩,
      [.dice ⟨"-2d4kh1", true, 2, 4, some (.keepHigh 1)⟩, .constant ⟨"+1", false, 1⟩]⟩]
    ∃ R : Results, R.values = [6, 2, 1, 3] ∧
      (evaluateAll bs .unbounded Script.source).runOn ⟨[6, 2, 1, 3, 5], .highest⟩ =
        (.ok R, ⟨[5], .highest⟩) ∧
      (evaluateAll bs .unbounded Script.source).runOn ⟨[6, 2, 1, 3], .value 0⟩ =
        (.ok R, ⟨[], .value 0⟩) := by
  intro bs
  let boom : DiceRoll := ⟨"d6!", false, 1, 6, some (.explode 0)⟩
  let kept : DiceRoll := ⟨"-2d4kh1", true, 2, 4, some (.keepHigh 1)⟩
  let results : List TermResult :=
    [boom.result [6, 2], kept.result [1, 3], ⟨.constant ⟨"+1", false, 1⟩, none, none, 1⟩]
  let R : Results := ⟨[⟨results, .unbounded, 6, none⟩]⟩
  have hboom : boom.Completes [6, 2] := ⟨by simp [boom, OnDie], by decide, [[6, 2]], rfl,
    List.forall_mem_singleton.mpr ⟨1, 2, rfl, .inl rfl, .inl (by decide)⟩, rfl⟩
  have hkept : kept.Completes [1, 3] := ⟨by simp [kept, OnDie], rfl⟩
  have hdropped : kept.magnitude [1, 3] = 3 := by
    have hsorted : DiceRoll.magnitude.sorted [1, 3] = [1, 3] :=
      List.mergeSort_of_pairwise (by decide)
    simp only [kept, DiceRoll.magnitude, hsorted]
    rfl
  have htotals : results.map TermResult.total = [8, -3, 1] := by
    have htotal : (kept.result [1, 3]).total = -3 := by
      simp only [DiceRoll.result, hdropped]
      rfl
    simp only [results, List.map_cons, htotal]
    rfl
  have hsum : BatchResult.ofResults? results .unbounded = some ⟨results, .unbounded, 6, none⟩ := by
    have hgrand : grandTotal? [8, -3, 1] = some 6 := by decide
    rw [BatchResult.ofResults?, htotals, hgrand]
    rfl
  have hyields : List.Forall₂ (fun b r => b.Yields .unbounded r) bs R.batches :=
    .cons ⟨.cons ⟨rfl, _, hboom, rfl⟩ (.cons ⟨rfl, _, hkept, rfl⟩ (.cons ⟨1, rfl, rfl⟩ .nil)), hsum⟩
      .nil
  have h : (evaluateAll bs .unbounded Script.source).runOn ⟨[6, 2, 1, 3, 5], .highest⟩ =
      (.ok R, ⟨[5], .highest⟩) :=
    runOn_evaluateAll_eq_ok_iff.mpr ⟨hyields, ⟨_, rfl, _, rfl, _, rfl, _, rfl, rfl⟩⟩
  exact ⟨R, rfl, h, (evaluateAll_recorded _ _ _ _ _ R h).2.2 (.value 0)⟩

end DiceNotation
