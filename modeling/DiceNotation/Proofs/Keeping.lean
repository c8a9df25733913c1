import DiceNotation.Proofs.Courses
import Mathlib.Data.List.Sort
import Mathlib.Order.Bounds.Basic

/-! # Keeping dice

A roll that keeps some of its dice sorts them and drops one end. That end is the
best or the worst of all choices of so many dice, because an ascending list begins
with its smallest values: whoever chooses as many of them cannot have less. What
is kept is then the best of the choices of the other dice, so it depends neither
on the order of the draws nor on how a sort orders equal ones.
-/

namespace DiceNotation

/-- The sums of the choices of `k` of the values. -/
def choiceSums (k : Nat) (vs : List UInt64) : Set Nat :=
  {n | ∃ ws : List UInt64, ws.Sublist vs ∧ ws.length = k ∧ exactSum ws = n}

section

variable {k : Nat} {vs ws xs : List UInt64}

theorem mem_choiceSums_iff {n : Nat} :
    n ∈ choiceSums k vs ↔ ∃ ws : List UInt64, ws.Subperm vs ∧ ws.length = k ∧ exactSum ws = n := by
  constructor
  · rintro ⟨ws, hws, hlength, hsum⟩
    exact ⟨ws, hws.subperm, hlength, hsum⟩
  · rintro ⟨ws, ⟨xs, hperm, hxs⟩, hlength, hsum⟩
    exact ⟨xs, hxs, hperm.length_eq.trans hlength, (exactSum_perm hperm).trans hsum⟩

theorem choiceSums_perm (h : vs.Perm ws) : choiceSums k vs = choiceSums k ws := by
  ext n
  simp only [mem_choiceSums_iff, h.subperm_left]

theorem exists_rest {n : Nat} (h : n ∈ choiceSums k vs) :
    ∃ m ∈ choiceSums (vs.length - k) vs, n + m = exactSum vs := by
  obtain ⟨ws, hws, rfl, rfl⟩ := h
  obtain ⟨rest, hrest⟩ := hws.exists_perm_append
  have hlength : rest.length = vs.length - ws.length := by
    rw [hrest.length_eq, List.length_append, Nat.add_sub_cancel_left]
  have hsubperm : rest.Subperm vs :=
    hrest.subperm_left.mpr (List.sublist_append_right ws rest).subperm
  refine ⟨exactSum rest, mem_choiceSums_iff.mpr ⟨rest, hsubperm, hlength, rfl⟩, ?_⟩
  rw [exactSum_perm hrest, exactSum_append]

theorem exactSum_take_cons_le {w : UInt64} {n : Nat} (hw : ∀ v ∈ ws, w ≤ v) (hn : n ≤ ws.length) :
    exactSum ((w :: ws).take n) ≤ exactSum (ws.take n) := by
  cases n with
  | zero => exact Nat.le_refl _
  | succ n =>
      have hle := UInt64.le_iff_toNat_le.mp (hw ws[n] (List.getElem_mem hn))
      rw [List.take_succ_cons, exactSum_cons, List.take_succ_eq_append_getElem hn, exactSum_append,
        exactSum_cons]
      exact (Nat.add_comm _ _).trans_le (Nat.add_le_add_left hle _)

theorem exactSum_take_le (h : xs.Sublist ws) (hws : ws.Pairwise (· ≤ ·)) :
    exactSum (ws.take xs.length) ≤ exactSum xs := by
  induction h with
  | slnil => exact Nat.le_refl _
  | cons w hxs ih =>
      -- The first value is not chosen, but no other beginning of that length sums up to less.
      obtain ⟨hw, hws⟩ := List.pairwise_cons.mp hws
      exact Nat.le_trans (exactSum_take_cons_le hw hxs.length_le) (ih hws)
  | cons_cons w hxs ih =>
      rw [List.length_cons, List.take_succ_cons, exactSum_cons, exactSum_cons]
      exact Nat.add_le_add_left (ih hws.of_cons) _

theorem isLeast_take (hws : ws.Pairwise (· ≤ ·)) (hk : k ≤ ws.length) :
    IsLeast (choiceSums k ws) (exactSum (ws.take k)) := by
  refine ⟨⟨ws.take k, List.take_sublist k ws, List.length_take_of_le hk, rfl⟩, ?_⟩
  rintro n ⟨xs, hxs, rfl, rfl⟩
  exact exactSum_take_le hxs hws

theorem isGreatest_drop (hws : ws.Pairwise (· ≤ ·)) (hk : k ≤ ws.length) :
    IsGreatest (choiceSums k ws) (exactSum (ws.drop (ws.length - k))) := by
  constructor
  · refine ⟨ws.drop (ws.length - k), List.drop_sublist _ ws, ?_, rfl⟩
    rw [List.length_drop]
    exact Nat.sub_sub_self hk
  · intro n hn
    -- What is not chosen sums up to no less than the beginning of the list.
    obtain ⟨m, hm, hsum⟩ := exists_rest hn
    have hle := (isLeast_take hws (Nat.sub_le ws.length k)).2 hm
    have hsplit := exactSum_take_add_drop ws (ws.length - k)
    omega

end

theorem sum_perm {vs ws : List UInt64} (h : vs.Perm ws) : sum vs = sum ws := by
  unfold sum
  refine h.foldr_eq' (fun v _ w _ n => ?_) 0
  rw [← UInt64.add_assoc, UInt64.add_comm w v, UInt64.add_assoc]

namespace Outcome

/-- Outcomes in ascending order, those of equal value in any order. -/
def Ascending (os : List Outcome) : Prop := os.Pairwise fun a b => (compare a b).isLE

theorem isLE_compare {a b : Outcome} : (compare a b).isLE ↔ a.value ≤ b.value :=
  Std.isLE_compare (a := a.value) (b := b.value)

theorem ascending_iff {os : List Outcome} :
    Ascending os ↔ (os.map value).Pairwise (· ≤ ·) := by
  simp only [Ascending, isLE_compare, List.pairwise_map]

theorem values_perm {os : List Outcome} {vs : List UInt64} {faces : UInt64}
    (h : os.Perm (vs.map (ofDraw · faces))) : (os.map value).Perm vs := by
  simpa [Function.comp_def] using h.map value

end Outcome

namespace DiceRoll

variable {d : DiceRoll} {keep : UInt64} {vs ws : List UInt64}

theorem magnitude.sorted_pairwise (vs : List UInt64) : (magnitude.sorted vs).Pairwise (· ≤ ·) :=
  List.pairwise_mergeSort' _ vs

/-- However a list is put in ascending order, the result is the same. -/
theorem magnitude.eq_sorted (hperm : ws.Perm vs) (hws : ws.Pairwise (· ≤ ·)) :
    ws = magnitude.sorted vs :=
  (hperm.trans (sorted_perm vs).symm).eq_of_pairwise' hws (sorted_pairwise vs)

theorem magnitude_perm (h : vs.Perm ws) : d.magnitude vs = d.magnitude ws := by
  have hsorted : magnitude.sorted vs = magnitude.sorted ws :=
    magnitude.eq_sorted ((magnitude.sorted_perm vs).trans h) (magnitude.sorted_pairwise vs)
  rw [magnitude, magnitude, hsorted, sum_perm h]

theorem total_result_perm (h : vs.Perm ws) : (d.result vs).total = (d.result ws).total := by
  simp only [result, magnitude_perm h]

theorem toNat_magnitude_keepHigh (hm : d.modifier = some (.keepHigh keep))
    (hvs : exactSum vs < wordCount) (hperm : ws.Perm vs) (hws : ws.Pairwise (· ≤ ·)) :
    (d.magnitude vs).toNat = exactSum (ws.drop (d.count - keep).toNat) := by
  obtain rfl := magnitude.eq_sorted hperm hws
  rw [magnitude, hm]
  exact toNat_sum_sub_take hvs hperm _

theorem toNat_magnitude_keepLow (hm : d.modifier = some (.keepLow keep)) (hkeep : keep ≤ d.count)
    (hlength : vs.length = d.count.toNat) (hvs : exactSum vs < wordCount) (hperm : ws.Perm vs)
    (hws : ws.Pairwise (· ≤ ·)) : (d.magnitude vs).toNat = exactSum (ws.take keep.toNat) := by
  obtain rfl := magnitude.eq_sorted hperm hws
  have hrest : (magnitude.sorted vs).length - (d.count - keep).toNat = keep.toNat := by
    rw [hperm.length_eq, hlength, UInt64.toNat_sub_of_le _ _ hkeep]
    exact Nat.sub_sub_self (UInt64.le_iff_toNat_le.mp hkeep)
  rw [magnitude, hm]
  refine (toNat_sum_sub_take hvs ((List.reverse_perm _).trans hperm) _).trans ?_
  rw [List.drop_reverse, hrest, exactSum_perm (List.reverse_perm _)]

theorem isGreatest_magnitude (hm : d.modifier = some (.keepHigh keep)) (hkeep : keep ≤ d.count)
    (hlength : vs.length = d.count.toNat) (hvs : exactSum vs < wordCount) :
    IsGreatest (choiceSums keep.toNat vs) (d.magnitude vs).toNat := by
  have hperm := magnitude.sorted_perm vs
  have hsorted := magnitude.sorted_pairwise vs
  have hcount := hperm.length_eq.trans hlength
  rw [toNat_magnitude_keepHigh hm hvs hperm hsorted, UInt64.toNat_sub_of_le _ _ hkeep, ← hcount,
    choiceSums_perm hperm.symm]
  exact isGreatest_drop hsorted (hcount ▸ UInt64.le_iff_toNat_le.mp hkeep)

theorem isLeast_magnitude (hm : d.modifier = some (.keepLow keep)) (hkeep : keep ≤ d.count)
    (hlength : vs.length = d.count.toNat) (hvs : exactSum vs < wordCount) :
    IsLeast (choiceSums keep.toNat vs) (d.magnitude vs).toNat := by
  have hperm := magnitude.sorted_perm vs
  have hsorted := magnitude.sorted_pairwise vs
  have hcount := hperm.length_eq.trans hlength
  rw [toNat_magnitude_keepLow hm hkeep hlength hvs hperm hsorted, choiceSums_perm hperm.symm]
  exact isLeast_take hsorted (hcount ▸ UInt64.le_iff_toNat_le.mp hkeep)

/-- The roll keeps so many of its dice, the highest or the lowest ones. -/
def Keeps (d : DiceRoll) (keep : UInt64) : Prop :=
  d.modifier = some (.keepHigh keep) ∨ d.modifier = some (.keepLow keep)

theorem fault?_keeping (hm : d.Keeps keep) (hcount : d.count.toNat ≤ maxDice)
    (hfaces : 1 ≤ d.faces.toNat ∧ d.faces.toNat ≤ maxFaces) (hkeep : 0 < keep ∧ keep < d.count) :
    d.fault? = none := by
  rw [fault?_eq_none_iff]
  rintro (hnone | hlarge | hnone | hmany | ⟨other, hother, hrange⟩ | ⟨hexplode, -⟩)
  · simp [hnone] at hfaces
  · exact absurd hfaces.2 (Nat.not_le.mpr hlarge)
  · simp [hnone] at hkeep
  · exact absurd hcount (Nat.not_le.mpr hmany)
  · obtain rfl : keep = other := by grind [Keeps]
    grind
  · grind [Keeps]

theorem completes_keeping (hm : d.Keeps keep) :
    d.Completes vs ↔ (∀ v ∈ vs, OnDie d.faces v) ∧ vs.length = d.count.toNat := by
  apply completes_counted
  intro limit hexplode
  grind [Keeps]

end DiceRoll

/-- A roll that keeps some of its dice succeeds as soon as all of them are thrown and records them
in that order. It counts the best of all choices of so many dice, or the worst one, whichever way
equal dice are sorted. The same draws in another order have the same total. -/
theorem evaluate_keeping {σ : Type} (src : Source σ) (s s' : σ) (d : DiceRoll) (keep : UInt64)
    (vs : List UInt64) (hmodifier : d.Keeps keep) (hcount : d.count.toNat ≤ maxDice)
    (hfaces : 1 ≤ d.faces.toNat ∧ d.faces.toNat ≤ maxFaces)
    (hkeep : 0 < keep ∧ keep < d.count) (hlength : vs.length = d.count.toNat)
    (hvs : ∀ v ∈ vs, OnDie d.faces v) (hdraws : src.Draws d.faces vs s s') :
    ∃ r, (d.evaluate src).runOn s = (.ok r, s') ∧
      (Term.dice d).thrown src s = vs.map (Throw.mk d.faces) ∧
      r.rolls = some (vs.map (Outcome.ofDraw · d.faces)) ∧
      (d.modifier = some (.keepHigh keep) →
        IsGreatest (choiceSums keep.toNat vs) r.total.toInt.natAbs ∧
        ∀ os : List Outcome, os.Perm (vs.map (Outcome.ofDraw · d.faces)) → Outcome.Ascending os →
          r.total.toInt.natAbs =
            exactSum ((os.drop (d.count - keep).toNat).map Outcome.value)) ∧
      (d.modifier = some (.keepLow keep) →
        IsLeast (choiceSums keep.toNat vs) r.total.toInt.natAbs ∧
        ∀ os : List Outcome, os.Perm (vs.map (Outcome.ofDraw · d.faces)) → Outcome.Ascending os →
          r.total.toInt.natAbs = exactSum ((os.take keep.toNat).map Outcome.value)) ∧
      ∀ {τ : Type} (src' : Source τ) (t t' : τ) (ws : List UInt64), ws.Perm vs →
        src'.Draws d.faces ws t t' →
          ∃ r', (d.evaluate src').runOn t = (.ok r', t') ∧ r'.total = r.total := by
  have hfault := DiceRoll.fault?_keeping hmodifier hcount hfaces hkeep
  have hcompletes := (DiceRoll.completes_keeping hmodifier).mpr ⟨hvs, hlength⟩
  have hsum : exactSum vs < wordCount :=
    Nat.lt_of_le_of_lt (hcompletes.exactSum_le hfault) (by decide)
  have hle := UInt64.le_of_lt hkeep.2
  refine ⟨d.result vs, DiceRoll.runOn_evaluate_eq_ok_iff.mpr ⟨hfault, vs, hcompletes, hdraws, rfl⟩,
    Term.thrown_dice hfault hcompletes hdraws, rfl, ?_, ?_, ?_⟩
  · intro hhigh
    rw [DiceRoll.natAbs_total_result hfault hcompletes]
    refine ⟨DiceRoll.isGreatest_magnitude hhigh hle hlength hsum, fun os hperm hos => ?_⟩
    rw [List.map_drop]
    exact DiceRoll.toNat_magnitude_keepHigh hhigh hsum (Outcome.values_perm hperm)
      (Outcome.ascending_iff.mp hos)
  · intro hlow
    rw [DiceRoll.natAbs_total_result hfault hcompletes]
    refine ⟨DiceRoll.isLeast_magnitude hlow hle hlength hsum, fun os hperm hos => ?_⟩
    rw [List.map_take]
    exact DiceRoll.toNat_magnitude_keepLow hlow hle hlength hsum (Outcome.values_perm hperm)
      (Outcome.ascending_iff.mp hos)
  · intro τ src' t t' ws hperm hdraws'
    have hcompletes' : d.Completes ws := (DiceRoll.completes_keeping hmodifier).mpr
      ⟨fun v hv => hvs v (hperm.mem_iff.mp hv), hperm.length_eq.trans hlength⟩
    exact ⟨d.result ws,
      DiceRoll.runOn_evaluate_eq_ok_iff.mpr ⟨hfault, ws, hcompletes', hdraws', rfl⟩,
      DiceRoll.total_result_perm hperm⟩

/-- Of two equal draws, either one may be dropped. -/
theorem evaluate_keeping_tie :
    ∃ r, ((⟨"4d6kl2", false, 4, 6, some (.keepLow 2)⟩ : DiceRoll).evaluate Script.source).runOn
        ⟨[3, 1, 3, 6, 5], .highest⟩ = (.ok r, ⟨[5], .highest⟩) ∧
      IsLeast (choiceSums 2 [3, 1, 3, 6]) r.total.toInt.natAbs ∧ r.total.toInt.natAbs = 4 := by
  obtain ⟨r, hrun, -, -, -, hlow, -⟩ := evaluate_keeping Script.source ⟨[3, 1, 3, 6, 5], .highest⟩
    ⟨[5], .highest⟩ ⟨"4d6kl2", false, 4, 6, some (.keepLow 2)⟩ 2 [3, 1, 3, 6] (.inr rfl) (by decide)
    (by decide) (by decide) rfl (by simp [OnDie]) (Script.serves _ [5] .highest)
  obtain ⟨hleast, hsorted⟩ := hlow rfl
  exact ⟨r, hrun, hleast, hsorted ([1, 3, 3, 6].map (Outcome.ofDraw · 6))
    (List.Perm.map _ (by decide)) (Outcome.ascending_iff.mpr (by decide))⟩

end DiceNotation
