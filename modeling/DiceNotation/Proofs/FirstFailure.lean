import DiceNotation.Proofs.Courses
import DiceNotation.Proofs.Repetition
import DiceNotation.Proofs.Verdicts

/-! # First failures

An evaluation is a walk over steps: the terms of each batch in order, and after the
last of them the sum of the batch. The walk ends with the first step that fails, and
nothing is thrown but by the steps before it and by that step itself. To compare the
two, the evaluation is put as one fold that performs a step at a time.
-/

namespace DiceNotation

/-- A step of an evaluation: a term is evaluated, or the totals of a batch are added up. -/
inductive Step where
  | term (t : Term)
  | sum
  deriving Repr, DecidableEq

/-- The steps of evaluating batches: the terms of each batch in order, and after them its sum. -/
def stepsOf (bs : List Batch) : List Step := bs.flatMap fun b => b.terms.map Step.term ++ [.sum]

/-- Where a walk stands: the state of the source, and the totals that are not yet added up. -/
structure Progress (σ : Type) where
  state : σ
  totals : List Int64

/-- The step succeeds with these throws. A sum succeeds if all sums of first totals fit. -/
inductive Step.Passes {σ : Type} (src : Source σ) :
    Step → Progress σ → List Throw → Progress σ → Prop where
  | term {t : Term} {r : TermResult} {s s' : σ} {totals : List Int64} :
      (t.evaluate src).runOn s = (.ok r, s') →
      Passes src (.term t) ⟨s, totals⟩ (t.thrown src s) ⟨s', totals ++ [r.total]⟩
  | sum {s : σ} {totals : List Int64} :
      (∀ k ≤ totals.length, FitsTotal (exactTotal (totals.take k))) →
      Passes src .sum ⟨s, totals⟩ [] ⟨s, []⟩

/-- The step fails after these throws, which leave the source in this state. -/
inductive Step.Fails {σ : Type} (src : Source σ) :
    Step → Progress σ → List Throw → EvaluationFault → σ → Prop where
  | term {t : Term} {e : EvaluationFault} {s s' : σ} {totals : List Int64} :
      (t.evaluate src).runOn s = (.error e, s') →
      Fails src (.term t) ⟨s, totals⟩ (t.thrown src s) e s'
  | sum {s : σ} {totals : List Int64} {k : Nat} : k ≤ totals.length →
      ¬ FitsTotal (exactTotal (totals.take k)) →
      Fails src .sum ⟨s, totals⟩ [] .grandTotalOverflow s

/-- All steps succeed, one after the other, with these throws altogether. -/
inductive Walk {σ : Type} (src : Source σ) :
    List Step → Progress σ → List Throw → Progress σ → Prop where
  | nil {p : Progress σ} : Walk src [] p [] p
  | cons {step : Step} {later : List Step} {p mid q : Progress σ} {xs ys : List Throw} :
      step.Passes src p xs mid → Walk src later mid ys q →
      Walk src (step :: later) p (xs ++ ys) q

/-- Some step fails once all steps before it have succeeded, and no later one is taken. The throws
are those of the steps before and those of the step itself. -/
inductive Stops {σ : Type} (src : Source σ) :
    List Step → Progress σ → List Throw → EvaluationFault → σ → Prop where
  | intro {before later : List Step} {step : Step} {p mid : Progress σ} {xs ys : List Throw}
      {e : EvaluationFault} {s' : σ} :
      Walk src before p xs mid → step.Fails src mid ys e s' →
      Stops src (before ++ step :: later) p (xs ++ ys) e s'

/-- The throws that evaluating the batches makes from a state of the source. -/
def thrownAll {σ : Type} (bs : List Batch) (thresholds : Thresholds) (src : Source σ) (s : σ) :
    List Throw :=
  ((evaluateAll bs thresholds src.recorded).runOn (s, [])).2.2

section

variable {σ : Type} {src : Source σ} {s s' : σ} {log log' : List Throw}
  {totals totals' : List Int64} {e : EvaluationFault}

/-- Performs one step on the totals that are not yet added up. -/
def Step.perform (src : Source σ) (totals : List Int64) : Step → Rolling σ (List Int64)
  | .term t => do
    let r ← t.evaluate src
    pure (totals ++ [r.total])
  | .sum =>
    match grandTotal? totals with
    | some _ => pure []
    | none => throw .grandTotalOverflow

theorem Term.runOn_recorded_eq_iff {t : Term} {outcome : Except EvaluationFault TermResult} :
    (t.evaluate src.recorded).runOn (s, log) = (outcome, s', log') ↔
      (t.evaluate src).runOn s = (outcome, s') ∧ log' = log ++ t.thrown src s := by
  rw [t.runOn_recorded_append, Prod.ext_iff, Prod.ext_iff, Prod.ext_iff, and_assoc]
  exact and_congr_right' (and_congr_right' eq_comm)

theorem Step.runOn_perform_eq_ok_iff {step : Step} :
    (step.perform src.recorded totals).runOn (s, log) = (.ok totals', s', log') ↔
      ∃ xs, step.Passes src ⟨s, totals⟩ xs ⟨s', totals'⟩ ∧ log' = log ++ xs := by
  cases step with
  | term t =>
      rw [perform, Rolling.runOn_bind_eq_ok_iff]
      constructor
      · rintro ⟨r, ⟨next, record⟩, hr, hpure⟩
        cases hpure
        obtain ⟨hrun, rfl⟩ := Term.runOn_recorded_eq_iff.mp hr
        exact ⟨_, .term hrun, rfl⟩
      · rintro ⟨xs, hpasses, rfl⟩
        cases hpasses with
        | term hrun => exact ⟨_, _, Term.runOn_recorded_eq_iff.mpr ⟨hrun, rfl⟩, rfl⟩
  | sum =>
      rw [perform]
      constructor
      · intro h
        cases hg : grandTotal? totals with
        | none =>
            rw [hg] at h
            cases h
        | some g =>
            rw [hg] at h
            cases h
            exact ⟨[], .sum (grandTotal?_eq_some_iff.mp hg).2, (List.append_nil _).symm⟩
      · rintro ⟨xs, hpasses, rfl⟩
        cases hpasses with
        | sum hfits =>
            obtain ⟨g, hg⟩ := exists_grandTotal? hfits
            rw [hg, List.append_nil]
            rfl

theorem Step.runOn_perform_eq_error_iff {step : Step} :
    (step.perform src.recorded totals).runOn (s, log) = (.error e, s', log') ↔
      ∃ xs, step.Fails src ⟨s, totals⟩ xs e s' ∧ log' = log ++ xs := by
  cases step with
  | term t =>
      rw [perform, Rolling.runOn_bind_eq_error_iff]
      constructor
      · rintro (hr | ⟨_, _, _, hpure⟩)
        · obtain ⟨hrun, rfl⟩ := Term.runOn_recorded_eq_iff.mp hr
          exact ⟨_, .term hrun, rfl⟩
        · cases hpure
      · rintro ⟨xs, hfails, rfl⟩
        cases hfails with
        | term hrun => exact .inl (Term.runOn_recorded_eq_iff.mpr ⟨hrun, rfl⟩)
  | sum =>
      rw [perform]
      constructor
      · intro h
        cases hg : grandTotal? totals with
        | none =>
            rw [hg] at h
            cases h
            obtain ⟨k, hk, hbad⟩ := grandTotal?_eq_none_iff.mp hg
            exact ⟨[], .sum hk hbad, (List.append_nil _).symm⟩
        | some g =>
            rw [hg] at h
            cases h
      · rintro ⟨xs, hfails, rfl⟩
        cases hfails with
        | sum hk hbad =>
            rw [grandTotal?_eq_none_iff.mpr ⟨_, hk, hbad⟩, List.append_nil]
            rfl

/-- Performs the steps in order. -/
def performAll (src : Source σ) (totals : List Int64) (later : List Step) :
    Rolling σ (List Int64) :=
  later.foldlM (fun totals step => step.perform src totals) totals

theorem performAll_cons (step : Step) (later : List Step) :
    performAll src totals (step :: later) =
      step.perform src totals >>= fun totals => performAll src totals later :=
  List.foldlM_cons

theorem performAll_append (first later : List Step) :
    performAll src totals (first ++ later) =
      performAll src totals first >>= fun totals => performAll src totals later :=
  List.foldlM_append

theorem runOn_performAll_eq_ok_iff {later : List Step} :
    (performAll src.recorded totals later).runOn (s, log) = (.ok totals', s', log') ↔
      ∃ xs, Walk src later ⟨s, totals⟩ xs ⟨s', totals'⟩ ∧ log' = log ++ xs := by
  induction later generalizing s log totals with
  | nil =>
      constructor
      · intro h
        cases h
        exact ⟨[], .nil, (List.append_nil _).symm⟩
      · rintro ⟨xs, hwalk, rfl⟩
        cases hwalk
        rw [List.append_nil]
        rfl
  | cons step later ih =>
      rw [performAll_cons, Rolling.runOn_bind_eq_ok_iff]
      constructor
      · rintro ⟨between, ⟨next, record⟩, hstep, hlater⟩
        obtain ⟨xs, hpasses, rfl⟩ := Step.runOn_perform_eq_ok_iff.mp hstep
        obtain ⟨ys, hwalk, rfl⟩ := ih.mp hlater
        exact ⟨xs ++ ys, .cons hpasses hwalk, List.append_assoc _ _ _⟩
      · rintro ⟨_, hwalk, rfl⟩
        cases hwalk with
        | @cons _ _ _ mid _ xs ys hpasses hwalk =>
            refine ⟨mid.totals, (mid.state, log ++ xs), ?_, ?_⟩
            · exact Step.runOn_perform_eq_ok_iff.mpr ⟨xs, hpasses, rfl⟩
            · exact ih.mpr ⟨ys, hwalk, (List.append_assoc _ _ _).symm⟩

theorem Stops.cons {step : Step} {later : List Step} {p mid : Progress σ} {xs ys : List Throw}
    (hstep : step.Passes src p xs mid) (hlater : Stops src later mid ys e s') :
    Stops src (step :: later) p (xs ++ ys) e s' := by
  cases hlater with
  | intro hwalk hfails =>
      rw [← List.append_assoc]
      exact .intro (.cons hstep hwalk) hfails

theorem runOn_performAll_eq_error_iff {all : List Step} :
    (performAll src.recorded totals all).runOn (s, log) = (.error e, s', log') ↔
      ∃ xs, Stops src all ⟨s, totals⟩ xs e s' ∧ log' = log ++ xs := by
  constructor
  · intro h
    induction all generalizing s log totals with
    | nil => cases h
    | cons first rest ih =>
        rw [performAll_cons, Rolling.runOn_bind_eq_error_iff] at h
        rcases h with hfirst | ⟨between, ⟨next, record⟩, hfirst, hrest⟩
        · obtain ⟨xs, hfails, rfl⟩ := Step.runOn_perform_eq_error_iff.mp hfirst
          exact ⟨xs, .intro .nil hfails, rfl⟩
        · obtain ⟨xs, hpasses, rfl⟩ := Step.runOn_perform_eq_ok_iff.mp hfirst
          obtain ⟨ys, hstops, rfl⟩ := ih hrest
          exact ⟨xs ++ ys, .cons hpasses hstops, List.append_assoc _ _ _⟩
  · rintro ⟨_, hstops, rfl⟩
    cases hstops with
    | @intro before later step _ mid xs ys _ _ hwalk hfails =>
        have hbefore : (performAll src.recorded totals before).runOn (s, log) =
            (.ok mid.totals, mid.state, log ++ xs) :=
          runOn_performAll_eq_ok_iff.mpr ⟨xs, hwalk, rfl⟩
        have hstep : (step.perform src.recorded mid.totals).runOn (mid.state, log ++ xs) =
            (.error e, s', log ++ (xs ++ ys)) :=
          Step.runOn_perform_eq_error_iff.mpr ⟨ys, hfails, (List.append_assoc _ _ _).symm⟩
        rw [performAll_append, Rolling.runOn_bind_ok hbefore, performAll_cons,
          Rolling.runOn_bind_error hstep]

theorem Rolling.runOn_map_eq_error_iff {α β : Type} {f : α → β} {m : Rolling σ α} :
    (f <$> m).runOn s = (.error e, s') ↔ m.runOn s = (.error e, s') := by
  rw [runOn_map]
  cases m.runOn s with
  | mk outcome next => cases outcome <;> simp [Except.map]

theorem Rolling.exists_runOn_map_eq_ok_iff {α β : Type} {b : β} {m : Rolling σ α} :
    ((fun _ => b) <$> m).runOn s = (.ok b, s') ↔ ∃ a, m.runOn s = (.ok a, s') := by
  rw [runOn_map]
  cases m.runOn s with
  | mk outcome next => cases outcome <;> simp [Except.map]

/-- Performing terms collects the totals of their results. -/
theorem performAll_terms (ts : List Term) :
    performAll src totals (ts.map Step.term) =
      (fun results => totals ++ results.map TermResult.total) <$> ts.mapM (·.evaluate src) := by
  induction ts generalizing totals with
  | nil => simp [performAll]
  | cons t ts ih =>
      rw [List.map_cons, performAll_cons, List.mapM_cons, Step.perform]
      simp only [map_eq_pure_bind, bind_assoc, pure_bind, ih, List.map_cons, List.append_assoc,
        List.singleton_append]

theorem performAll_batch (b : Batch) (thresholds : Thresholds) :
    performAll src [] (b.terms.map Step.term ++ [.sum]) =
      (fun _ => []) <$> b.evaluate thresholds src := by
  rw [performAll_append, performAll_terms, Batch.evaluate, bind_map_left, map_bind]
  congr 1
  funext results
  rw [List.nil_append, performAll_cons, Step.perform, BatchResult.ofResults?]
  cases grandTotal? (results.map TermResult.total) <;> rfl

/-- An evaluation does what its steps do. -/
theorem performAll_steps (bs : List Batch) (thresholds : Thresholds) :
    performAll src [] (stepsOf bs) = (fun _ => []) <$> evaluateAll bs thresholds src := by
  induction bs with
  | nil => rfl
  | cons b bs ih =>
      have hsteps : stepsOf (b :: bs) = (b.terms.map Step.term ++ [.sum]) ++ stepsOf bs :=
        List.flatMap_cons
      rw [hsteps, performAll_append, performAll_batch b thresholds]
      simp only [ih, evaluateAll, List.mapM_cons, map_eq_pure_bind, bind_assoc, pure_bind]

theorem runOn_evaluateAll_recorded (bs : List Batch) (thresholds : Thresholds) (src : Source σ)
    (s : σ) :
    (evaluateAll bs thresholds src.recorded).runOn (s, []) =
        (((evaluateAll bs thresholds src).runOn s).1, ((evaluateAll bs thresholds src).runOn s).2,
          thrownAll bs thresholds src s) ∧
      src.Serves (thrownAll bs thresholds src s) s ((evaluateAll bs thresholds src).runOn s).2 := by
  have hnotes : src.Notes id (evaluateAll bs thresholds src)
      (evaluateAll bs thresholds src.recorded) := notes_evaluateAll bs thresholds
  obtain ⟨xs, hserves, hrun⟩ := hnotes s
  rw [thrownAll, hrun, List.nil_append, List.map_id]
  exact ⟨rfl, hserves⟩

theorem runOn_evaluateAll_recorded_eq_iff {bs : List Batch} {thresholds : Thresholds}
    {outcome : Except EvaluationFault Results} {throws : List Throw} :
    (evaluateAll bs thresholds src.recorded).runOn (s, []) = (outcome, s', throws) ↔
      (evaluateAll bs thresholds src).runOn s = (outcome, s') ∧
        thrownAll bs thresholds src s = throws := by
  rw [(runOn_evaluateAll_recorded bs thresholds src s).1, Prod.ext_iff, Prod.ext_iff, Prod.ext_iff,
    and_assoc]

theorem runOn_evaluateAll_eq_error_iff {bs : List Batch} {thresholds : Thresholds}
    {throws : List Throw} :
    (evaluateAll bs thresholds src).runOn s = (.error e, s') ∧
        thrownAll bs thresholds src s = throws ↔
      Stops src (stepsOf bs) ⟨s, []⟩ throws e s' := by
  rw [← runOn_evaluateAll_recorded_eq_iff, ← Rolling.runOn_map_eq_error_iff, ← performAll_steps,
    runOn_performAll_eq_error_iff]
  simp only [List.nil_append, exists_eq_right']

end

/-- An evaluation stops exactly as the walk over its steps does, with the failure of the first step
that fails and the throws made until then, and succeeds exactly as that walk does, when no step
fails. So later batches are evaluated on what the earlier ones leave of the source, and only if
those succeed. -/
theorem evaluateAll_first_failure {σ : Type} (src : Source σ) (s : σ) (bs : List Batch)
    (thresholds : Thresholds) :
    src.Serves (thrownAll bs thresholds src s) s ((evaluateAll bs thresholds src).runOn s).2 ∧
    (∀ e s' throws,
      (evaluateAll bs thresholds src).runOn s = (.error e, s') ∧
          thrownAll bs thresholds src s = throws ↔
        Stops src (stepsOf bs) ⟨s, []⟩ throws e s') ∧
    (∀ s' throws,
      (∃ R, (evaluateAll bs thresholds src).runOn s = (.ok R, s')) ∧
          thrownAll bs thresholds src s = throws ↔
        Walk src (stepsOf bs) ⟨s, []⟩ throws ⟨s', []⟩) ∧
    ((∃ R s', (evaluateAll bs thresholds src).runOn s = (.ok R, s')) ↔
      ¬ ∃ throws e s', Stops src (stepsOf bs) ⟨s, []⟩ throws e s') ∧
    ∀ xs ys, bs = xs ++ ys →
      (evaluateAll bs thresholds src).runOn s =
        match (evaluateAll xs thresholds src).runOn s with
        | (.error e, s') => (.error e, s')
        | (.ok R, s') =>
          match (evaluateAll ys thresholds src).runOn s' with
          | (.error e, s'') => (.error e, s'')
          | (.ok R', s'') => (.ok (R.append R'), s'') := by
  have hfold : performAll src.recorded [] (stepsOf bs) =
      (fun _ => []) <$> evaluateAll bs thresholds src.recorded := performAll_steps bs thresholds
  have herror : ∀ e s' throws,
      (evaluateAll bs thresholds src).runOn s = (.error e, s') ∧
          thrownAll bs thresholds src s = throws ↔
        Stops src (stepsOf bs) ⟨s, []⟩ throws e s' :=
    fun _ _ _ => runOn_evaluateAll_eq_error_iff
  refine ⟨(runOn_evaluateAll_recorded bs thresholds src s).2, herror, ?_, ?_, ?_⟩
  · intro s' throws
    simp only [← exists_and_right, ← runOn_evaluateAll_recorded_eq_iff]
    rw [← Rolling.exists_runOn_map_eq_ok_iff (b := ([] : List Int64)), ← hfold,
      runOn_performAll_eq_ok_iff]
    simp only [List.nil_append, exists_eq_right']
  · simp only [← herror]
    cases hrun : (evaluateAll bs thresholds src).runOn s with
    | mk outcome s' => cases outcome <;> simp
  · intro xs ys hbs
    rw [hbs, evaluateAll_append, Rolling.runOn_bind]
    cases (evaluateAll xs thresholds src).runOn s with
    | mk outcome s' =>
        cases outcome with
        | error e => rfl
        | ok R =>
            refine (Rolling.runOn_bind _ _ s').trans ?_
            cases hys : (evaluateAll ys thresholds src).runOn s' with
            | mk outcome s'' =>
                dsimp only
                rw [hys]
                cases outcome <;> rfl

-- The sum of the first batch comes before the refused roll of the second one.
example :
    let d6 : DiceRoll := ⟨"1d6", false, 1, 6, none⟩
    let most : Term := .constant ⟨"+9223372036854775807", false, 9223372036854775807⟩
    let noDice : DiceRoll := ⟨"0d6", false, 0, 6, none⟩
    (evaluateAll [⟨d6, [most]⟩, ⟨noDice, []⟩] .unbounded Script.source.counted).runOn
      (⟨[3, 5], .highest⟩, 0) = (.error .grandTotalOverflow, ⟨[5], .highest⟩, 1) := by
  rfl

end DiceNotation
