import DiceNotation.Proofs.Draws
import DiceNotation.Query
import Mathlib.Data.List.Basic

/-! # Consecutive seeds

Each batch of a seeded evaluation has a generator of its own, whose seed is the
first seed plus the batch's index, modulo 2^64. So a batch comes to the same
result as on its own, the first batch that fails decides the failure, and a list
of batches can be split anywhere.
-/

namespace DiceNotation

/-- Evaluates a batch with a fresh generator. -/
def Batch.evaluateFresh (b : Batch) (thresholds : Thresholds) (seed : UInt64) :
    Except EvaluationFault BatchResult :=
  ((b.evaluate thresholds Generator.source).runOn (Generator.ofSeed seed)).1

/-- The seed of the batch at an index; words wrap around. -/
def seedAt (seed : UInt64) (i : Nat) : UInt64 := seed + UInt64.ofNat i

theorem seedAt_zero (seed : UInt64) : seedAt seed 0 = seed := UInt64.add_zero seed

theorem seedAt_succ (seed : UInt64) (i : Nat) : seedAt seed (i + 1) = seedAt (seed + 1) i := by
  rw [seedAt, seedAt, UInt64.ofNat_add, UInt64.add_comm (UInt64.ofNat i), ← UInt64.add_assoc]
  rfl

section

variable {ε α β : Type} {x : Except ε α} {f : α → Except ε β}

theorem bind_eq_ok_iff {b : β} : (x >>= f) = .ok b ↔ ∃ a, x = .ok a ∧ f a = .ok b := by
  cases x <;> simp [bind, Except.bind]

theorem bind_eq_error_iff {e : ε} :
    (x >>= f) = .error e ↔ x = .error e ∨ ∃ a, x = .ok a ∧ f a = .error e := by
  cases x <;> simp [bind, Except.bind]

end

variable {thresholds : Thresholds} {seed : UInt64}

theorem evaluateSeeded_nil : evaluateSeeded thresholds seed [] = pure [] := rfl

theorem evaluateSeeded_cons (b : Batch) (bs : List Batch) :
    evaluateSeeded thresholds seed (b :: bs) = (do
      let r ← b.evaluateFresh thresholds seed
      let rs ← evaluateSeeded thresholds (seed + 1) bs
      pure (r :: rs)) := rfl

theorem evaluateSeeded_append (xs ys : List Batch) :
    evaluateSeeded thresholds seed (xs ++ ys) = (do
      let rs ← evaluateSeeded thresholds seed xs
      let rs' ← evaluateSeeded thresholds (seedAt seed xs.length) ys
      pure (rs ++ rs')) := by
  induction xs generalizing seed with
  | nil =>
      rw [evaluateSeeded_nil, pure_bind, List.length_nil, seedAt_zero]
      simp
  | cons x xs ih =>
      rw [List.cons_append, evaluateSeeded_cons, evaluateSeeded_cons, ih, List.length_cons,
        seedAt_succ]
      simp only [bind_assoc, pure_bind, List.cons_append]

theorem evaluateSeeded_cons_eq_ok_iff {b : Batch} {bs : List Batch} {rs : List BatchResult} :
    evaluateSeeded thresholds seed (b :: bs) = .ok rs ↔
      ∃ r, b.evaluateFresh thresholds seed = .ok r ∧
        ∃ rs', evaluateSeeded thresholds (seed + 1) bs = .ok rs' ∧ r :: rs' = rs := by
  simp only [evaluateSeeded_cons, bind_eq_ok_iff, pure, Except.pure, Except.ok.injEq]

theorem evaluateSeeded_cons_eq_error_iff {b : Batch} {bs : List Batch} {e : EvaluationFault} :
    evaluateSeeded thresholds seed (b :: bs) = .error e ↔
      b.evaluateFresh thresholds seed = .error e ∨
        ∃ r, b.evaluateFresh thresholds seed = .ok r ∧
          evaluateSeeded thresholds (seed + 1) bs = .error e := by
  simp only [evaluateSeeded_cons, bind_eq_error_iff, pure, Except.pure, reduceCtorEq, and_false,
    exists_false, or_false]

theorem evaluateSeeded_eq_ok_iff {bs : List Batch} {rs : List BatchResult} :
    evaluateSeeded thresholds seed bs = .ok rs ↔ rs.length = bs.length ∧
      ∀ (i : Nat) (b : Batch) (r : BatchResult), bs[i]? = some b → rs[i]? = some r →
        b.evaluateFresh thresholds (seedAt seed i) = .ok r := by
  -- The seed moves on with the batches, so the batch at `i` meets the seed at `i`.
  induction bs generalizing seed rs with
  | nil =>
      rw [evaluateSeeded_nil]
      simp [pure, Except.pure, eq_comm]
  | cons b bs ih =>
      rw [evaluateSeeded_cons_eq_ok_iff]
      constructor
      · rintro ⟨r, hb, rs', hbs, rfl⟩
        obtain ⟨hlength, hall⟩ := ih.mp hbs
        refine ⟨congrArg (· + 1) hlength, ?_⟩
        intro i c d hc hd
        cases i with
        | zero =>
            obtain rfl := Option.some.inj hc
            obtain rfl := Option.some.inj hd
            rwa [seedAt_zero]
        | succ i =>
            rw [seedAt_succ]
            exact hall i c d hc hd
      · intro h
        obtain ⟨hlength, hall⟩ := h
        cases rs with
        | nil => cases hlength
        | cons r rs' =>
            refine ⟨r, ?_, rs', ih.mpr ⟨Nat.succ.inj hlength, ?_⟩, rfl⟩
            · have hb := hall 0 b r rfl rfl
              rwa [seedAt_zero] at hb
            · intro i c d hc hd
              rw [← seedAt_succ]
              exact hall (i + 1) c d hc hd

theorem evaluateSeeded_eq_error_iff {bs : List Batch} {e : EvaluationFault} :
    evaluateSeeded thresholds seed bs = .error e ↔
      ∃ (i : Nat) (b : Batch), bs[i]? = some b ∧
        b.evaluateFresh thresholds (seedAt seed i) = .error e ∧
        ∀ j < i, ∀ c : Batch, bs[j]? = some c →
          ∃ r, c.evaluateFresh thresholds (seedAt seed j) = .ok r := by
  induction bs generalizing seed with
  | nil =>
      rw [evaluateSeeded_nil]
      simp [pure, Except.pure]
  | cons b bs ih =>
      rw [evaluateSeeded_cons_eq_error_iff]
      constructor
      · rintro (hb | ⟨r, hb, hbs⟩)
        · refine ⟨0, b, rfl, ?_, by simp⟩
          rwa [seedAt_zero]
        · obtain ⟨i, c, hc, hfail, hbefore⟩ := ih.mp hbs
          refine ⟨i + 1, c, hc, by rwa [seedAt_succ], ?_⟩
          intro j hj d hd
          cases j with
          | zero =>
              obtain rfl := Option.some.inj hd
              rw [seedAt_zero]
              exact ⟨r, hb⟩
          | succ j =>
              rw [seedAt_succ]
              exact hbefore j (Nat.lt_of_succ_lt_succ hj) d hd
      · rintro ⟨i, c, hc, hfail, hbefore⟩
        cases i with
        | zero =>
            obtain rfl := Option.some.inj hc
            rw [seedAt_zero] at hfail
            exact .inl hfail
        | succ i =>
            obtain ⟨r, hb⟩ := hbefore 0 (Nat.succ_pos i) b rfl
            rw [seedAt_zero] at hb
            rw [seedAt_succ] at hfail
            refine .inr ⟨r, hb, ih.mpr ⟨i, c, hc, hfail, ?_⟩⟩
            intro j hj d hd
            rw [← seedAt_succ]
            exact hbefore (j + 1) (Nat.succ_lt_succ hj) d hd

theorem runOn_evaluateAll_singleton {σ : Type} (src : Source σ) (s : σ) (b : Batch) :
    ((evaluateAll [b] thresholds src).runOn s).1 =
      ((b.evaluate thresholds src).runOn s).1.map fun r => ⟨[r]⟩ := by
  have hone : evaluateAll [b] thresholds src =
      b.evaluate thresholds src >>= fun r => pure ⟨[r]⟩ := by
    simp [evaluateAll]
  rw [hone, Rolling.runOn_bind]
  cases (b.evaluate thresholds src).runOn s with
  | mk outcome next => cases outcome <;> rfl

theorem Query.answerSeeded_of_batches {q : Query} {b : Batch} (h : q.batches = [b]) :
    q.answerSeeded seed = ((q.answer Generator.source).runOn (Generator.ofSeed seed)).1 := by
  rw [answerSeeded, answer, h, runOn_evaluateAll_singleton, evaluateSeeded_cons, evaluateSeeded_nil,
    Batch.evaluateFresh]
  cases ((b.evaluate q.thresholds Generator.source).runOn (Generator.ofSeed seed)).1 <;> rfl

/-- A seeded evaluation settles each batch on its own: it succeeds with the results that the batches
have with the seeds of their indices, or fails like the first of them that fails. So it can be split
anywhere, and a formula of one batch is rolled as with a fresh generator. -/
theorem evaluateSeeded_batchwise (thresholds : Thresholds) (seed : UInt64) (bs : List Batch) :
    (∀ rs, evaluateSeeded thresholds seed bs = .ok rs ↔ rs.length = bs.length ∧
      ∀ (i : Nat) (b : Batch) (r : BatchResult), bs[i]? = some b → rs[i]? = some r →
        b.evaluateFresh thresholds (seedAt seed i) = .ok r) ∧
    (∀ e, evaluateSeeded thresholds seed bs = .error e ↔
      ∃ (i : Nat) (b : Batch), bs[i]? = some b ∧
        b.evaluateFresh thresholds (seedAt seed i) = .error e ∧
        ∀ j < i, ∀ c : Batch, bs[j]? = some c →
          ∃ r, c.evaluateFresh thresholds (seedAt seed j) = .ok r) ∧
    (∀ xs ys, bs = xs ++ ys → evaluateSeeded thresholds seed bs = (do
      let rs ← evaluateSeeded thresholds seed xs
      let rs' ← evaluateSeeded thresholds (seedAt seed xs.length) ys
      pure (rs ++ rs'))) ∧
    ∀ f q, Query.ofFormula f = .ok q → q.batches.length = 1 →
      (q.withThresholds thresholds).answerSeeded seed =
        (((q.withThresholds thresholds).answer Generator.source).runOn
          (Generator.ofSeed seed)).1 := by
  refine ⟨fun _ => evaluateSeeded_eq_ok_iff, fun _ => evaluateSeeded_eq_error_iff, ?_, ?_⟩
  · rintro xs ys rfl
    exact evaluateSeeded_append xs ys
  · intro f q _ hone
    obtain ⟨b, hb⟩ := List.length_eq_one_iff.mp hone
    exact Query.answerSeeded_of_batches hb

/-- Behind the largest seed the seeds go on with 0. -/
theorem evaluateSeeded_batchwise_wrapped :
    let d6 : Batch := ⟨⟨"d6", false, 1, 6, none⟩, [.constant ⟨"+1", false, 1⟩]⟩
    evaluateSeeded .unbounded 0xFFFFFFFFFFFFFFFF ([d6] ++ [d6, d6]) = (do
      let rs ← evaluateSeeded .unbounded 0xFFFFFFFFFFFFFFFF [d6]
      let rs' ← evaluateSeeded .unbounded 0 [d6, d6]
      pure (rs ++ rs')) ∧
    (⟨"d6 + 1", [d6], .unbounded⟩ : Query).answerSeeded 7 =
      (((⟨"d6 + 1", [d6], .unbounded⟩ : Query).answer Generator.source).runOn
        (Generator.ofSeed 7)).1 := by
  intro d6
  constructor
  · have hseed : seedAt 0xFFFFFFFFFFFFFFFF 1 = 0 := by decide
    have hsplit := (evaluateSeeded_batchwise .unbounded 0xFFFFFFFFFFFFFFFF ([d6] ++ [d6, d6])).2.2.1
      [d6] [d6, d6] rfl
    rwa [List.length_singleton, hseed] at hsplit
  · let q : Query := ⟨"d6 + 1", [d6], .unbounded⟩
    have hquery : Query.ofFormula "d6 + 1" = .ok q := by decide +kernel
    exact (evaluateSeeded_batchwise .unbounded 7 [d6]).2.2.2 "d6 + 1" q hquery rfl

end DiceNotation
