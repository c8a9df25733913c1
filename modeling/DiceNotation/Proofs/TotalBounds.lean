import DiceNotation.Proofs.CheckedRolls
import Mathlib.Algebra.Order.BigOperators.Group.List

/-! # Bounds of a total

Every die that counts adds at least one and at most its faces to a total. So no
total is zero, and its sign is the sign of its term; the trace, which takes the
sign from the term and the number from the draws, always shows the total. As the
checked evaluation never overflows, no total is refused either.
-/

namespace DiceNotation

theorem length_le_exactSum {faces : UInt64} {vs : List UInt64} (h : ∀ v ∈ vs, OnDie faces v) :
    vs.length ≤ exactSum vs := by
  have hone : ∀ n ∈ vs.map UInt64.toNat, 1 ≤ n := by
    intro n hn
    obtain ⟨v, hv, rfl⟩ := List.mem_map.mp hn
    exact UInt64.le_iff_toNat_le.mp (h v hv).1
  have hle := List.length_le_sum_of_one_le _ hone
  rwa [List.length_map] at hle

theorem exactSum_range {faces : UInt64} {vs : List UInt64} (h : ∀ v ∈ vs, OnDie faces v) :
    vs.length ≤ exactSum vs ∧ exactSum vs ≤ vs.length * faces.toNat :=
  ⟨length_le_exactSum h, exactSum_le fun v hv => UInt64.le_iff_toNat_le.mp (h v hv).2⟩

theorem length_le_flatten {faces limit : UInt64} {runs : List (List UInt64)}
    (h : ∀ run ∈ runs, IsRun faces limit run) : runs.length ≤ runs.flatten.length := by
  have hone : ∀ n ∈ runs.map List.length, 1 ≤ n := by
    intro n hn
    obtain ⟨run, hrun, rfl⟩ := List.mem_map.mp hn
    obtain ⟨k, v, rfl, -⟩ := h run hrun
    simp
  have hle := List.length_le_sum_of_one_le _ hone
  rwa [List.length_map, ← List.length_flatten] at hle

theorem decimalInt_signed {n : Nat} (h : 0 < n) (negative : Bool) :
    decimalInt (if negative then -(n : Int) else n) =
      (if negative then "-" else "") ++ decimal n := by
  cases negative with
  | false => exact String.empty_append.symm
  | true =>
      obtain ⟨m, rfl⟩ := Nat.exists_eq_succ_of_ne_zero (Nat.ne_of_gt h)
      rfl

namespace DiceRoll

variable {d : DiceRoll} {keep : UInt64} {vs : List UInt64}

/-- Between how much and how much the draws of a roll can sum up to: the dice that are kept, all of
them, or all with their explosions. -/
structure Bounds (d : DiceRoll) (magnitude : Nat) : Prop where
  keeping : ∀ keep, d.Keeps keep →
    keep.toNat ≤ magnitude ∧ magnitude ≤ keep.toNat * d.faces.toNat
  plain : d.modifier = none →
    d.count.toNat ≤ magnitude ∧ magnitude ≤ d.count.toNat * d.faces.toNat
  exploding : d.Explodes → d.count.toNat ≤ magnitude ∧ magnitude ≤ maxDice * d.faces.toNat

theorem magnitude_mem_choiceSums (hm : d.Keeps keep) (hkeep : keep ≤ d.count)
    (hlength : vs.length = d.count.toNat) (hvs : exactSum vs < wordCount) :
    (d.magnitude vs).toNat ∈ choiceSums keep.toNat vs := by
  rcases hm with hm | hm
  · exact (isGreatest_magnitude hm hkeep hlength hvs).1
  · exact (isLeast_magnitude hm hkeep hlength hvs).1

theorem toNat_magnitude_all (hm : ∀ keep, ¬ d.Keeps keep) (h : exactSum vs < wordCount) :
    (d.magnitude vs).toNat = exactSum vs := by
  unfold magnitude
  split
  · rename_i keep hkeep
    exact absurd (.inl hkeep) (hm keep)
  · rename_i keep hkeep
    exact absurd (.inr hkeep) (hm keep)
  · exact toNat_sum h

theorem Completes.bounds (hvs : d.Completes vs) (hfault : d.fault? = none) :
    d.Bounds (d.magnitude vs).toNat := by
  have hsum : exactSum vs < wordCount := Nat.lt_of_le_of_lt (hvs.exactSum_le hfault) (by decide)
  obtain ⟨hlow, hhigh⟩ := exactSum_range hvs.1
  constructor
  · intro keep hm
    obtain ⟨-, hlt⟩ := keep_range_of_fault? hfault hm
    obtain ⟨-, hlength⟩ := (completes_keeping hm).mp hvs
    obtain ⟨ws, hws, hkept, hmagnitude⟩ :=
      magnitude_mem_choiceSums hm (UInt64.le_of_lt hlt) hlength hsum
    rw [← hmagnitude, ← hkept]
    exact exactSum_range fun v hv => hvs.1 v (hws.subset hv)
  · intro hm
    have hall : ∀ keep, ¬ d.Keeps keep := by simp [Keeps, hm]
    obtain ⟨-, hlength⟩ := (completes_counted (by simp [hm])).mp hvs
    rw [toNat_magnitude_all hall hsum, ← hlength]
    exact ⟨hlow, hhigh⟩
  · rintro ⟨limit, hm⟩
    have hall : ∀ keep, ¬ d.Keeps keep := by simp [Keeps, hm]
    obtain ⟨-, hroom, runs, hcount, hruns, rfl⟩ := (completes_exploding hm).mp hvs
    rw [toNat_magnitude_all hall hsum, ← hcount]
    exact ⟨(length_le_flatten hruns).trans hlow,
      hhigh.trans (Nat.mul_le_mul_right d.faces.toNat hroom)⟩

theorem keeps_or_plain_or_explodes (d : DiceRoll) :
    (∃ keep, d.Keeps keep) ∨ d.modifier = none ∨ d.Explodes := by
  cases hm : d.modifier with
  | none => exact .inr (.inl rfl)
  | some m =>
      cases m with
      | explode limit => exact .inr (.inr ⟨limit, hm⟩)
      | keepHigh keep => exact .inl ⟨keep, .inl hm⟩
      | keepLow keep => exact .inl ⟨keep, .inr hm⟩

theorem Bounds.pos {magnitude : Nat} (h : d.Bounds magnitude) (hfault : d.fault? = none) :
    0 < magnitude := by
  obtain ⟨⟨hcount, -⟩, -⟩ := bounds_of_fault? hfault
  rcases d.keeps_or_plain_or_explodes with ⟨keep, hm⟩ | hm | hm
  · have hkeep := UInt64.lt_iff_toNat_lt.mp (keep_range_of_fault? hfault hm).1
    exact Nat.lt_of_lt_of_le hkeep (h.keeping keep hm).1
  · exact Nat.lt_of_lt_of_le hcount (h.plain hm).1
  · exact Nat.lt_of_lt_of_le hcount (h.exploding hm).1

theorem trace_result (hvs : d.Completes vs) (hfault : d.fault? = none) :
    (d.result vs).trace = some ("[" ++ ", ".intercalate (vs.map fun v => decimal v.toNat) ++
      "] = **" ++ decimalInt (d.result vs).total.toInt ++ "**") := by
  rw [toInt_total_result hfault hvs, decimalInt_signed ((hvs.bounds hfault).pos hfault)]
  rfl

end DiceRoll

theorem Term.Course.ne_totalOverflow {d : DiceRoll} {xs : List Throw}
    {outcome : Except EvaluationFault TermResult} (h : (Term.dice d).Course xs outcome) :
    outcome ≠ .error .totalOverflow := by
  rintro rfl
  cases h with
  | refused hfault =>
      obtain ⟨rank, hobjection, -⟩ := DiceRoll.fault?_eq_some_iff.mp hfault
      cases hobjection

/-- A successful roll has a total within the bounds of its modifier, which is not zero and has the
sign of the roll; the trace shows the draws in order and that total. On the way to it, or to any
failure, no number leaves its word: the roll comes to the same with all of its arithmetic checked,
and no total is refused. -/
theorem evaluate_total_bounds {σ : Type} (src : Source σ) (s : σ) (d : DiceRoll) :
    (d.checkedEvaluate src).runOn s = (d.evaluate src).runOn s ∧
      ((d.evaluate src).runOn s).1 ≠ .error .totalOverflow ∧
      ∀ r, ((d.evaluate src).runOn s).1 = .ok r →
        d.Bounds r.total.toInt.natAbs ∧ r.total.toInt ≠ 0 ∧
          (r.total.toInt < 0 ↔ d.negative = true) ∧
          ∃ os, r.rolls = some os ∧
            os.map Outcome.value = ((Term.dice d).thrown src s).map Throw.value ∧
            r.trace = some ("[" ++ ", ".intercalate (os.map fun o => decimal o.value.toNat) ++
              "] = **" ++ decimalInt r.total.toInt ++ "**") := by
  obtain ⟨hcourse, -⟩ := (Term.dice d).course_thrown src s
  refine ⟨d.runOn_checkedEvaluate src s, hcourse.ne_totalOverflow, ?_⟩
  intro r hr
  replace hcourse : (Term.dice d).Course ((Term.dice d).thrown src s) (.ok r) := hr ▸ hcourse
  generalize (Term.dice d).thrown src s = xs at hcourse ⊢
  cases hcourse with
  | @complete _ vs hfault hvs =>
      have hbounds := hvs.bounds hfault
      have hpos := hbounds.pos hfault
      have htotal := DiceRoll.toInt_total_result hfault hvs
      refine ⟨?_, ?_, ?_, vs.map (Outcome.ofDraw · d.faces), rfl, ?_, ?_⟩
      · rwa [DiceRoll.natAbs_total_result hfault hvs]
      · rw [htotal]
        split <;> omega
      · rw [htotal]
        cases d.negative <;> simp [hpos]
      · rw [Outcome.map_value_ofDraw, List.map_map]
        exact (List.map_id vs).symm
      · rw [DiceRoll.trace_result hvs hfault, List.map_map]
        rfl

/-- The lowest of three subtracted dice: the number that is shown is negative, and at least one. -/
theorem evaluate_total_bounds_subtracted :
    let d : DiceRoll := ⟨"-3d6kl1", true, 3, 6, some (.keepLow 1)⟩
    ∃ (r : TermResult) (os : List Outcome),
      ((d.evaluate Script.source).runOn ⟨[4, 2, 6], .highest⟩).1 = .ok r ∧
        r.total.toInt < 0 ∧ 1 ≤ r.total.toInt.natAbs ∧ r.total.toInt.natAbs ≤ 6 ∧
        os.map Outcome.value = [4, 2, 6] ∧
        r.trace = some ("[" ++ ", ".intercalate (os.map fun o => decimal o.value.toNat) ++
          "] = **" ++ decimalInt r.total.toInt ++ "**") := by
  intro d
  have hvs : d.Completes [4, 2, 6] := ⟨by simp [d, OnDie], rfl⟩
  have hdraws : Script.source.Draws 6 [4, 2, 6] ⟨[4, 2, 6], .highest⟩ ⟨[], .highest⟩ :=
    Script.serves _ [] .highest
  have hrun : (d.evaluate Script.source).runOn ⟨[4, 2, 6], .highest⟩ =
      (.ok (d.result [4, 2, 6]), ⟨[], .highest⟩) :=
    DiceRoll.runOn_evaluate_eq_ok_iff.mpr ⟨by decide, _, hvs, hdraws, rfl⟩
  obtain ⟨-, -, htotal⟩ := evaluate_total_bounds Script.source ⟨[4, 2, 6], .highest⟩ d
  obtain ⟨hbounds, -, hnegative, os, -, hos, htrace⟩ := htotal _ (congrArg Prod.fst hrun)
  obtain ⟨hlow, hhigh⟩ := hbounds.keeping 1 (.inr rfl)
  rw [Term.thrown_dice (by decide) hvs hdraws] at hos
  exact ⟨_, os, congrArg Prod.fst hrun, hnegative.mpr rfl, hlow, hhigh, hos, htrace⟩

end DiceNotation
