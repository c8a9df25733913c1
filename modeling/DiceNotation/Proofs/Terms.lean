import DiceNotation.Proofs.Explosion
import Mathlib.Algebra.GroupWithZero.Nat

/-! # What evaluating a term records

A dice term that passes its checks succeeds exactly when the source serves a
complete sequence of draws for it, and then everything else follows from those
draws alone. All sums stay far below the limits of their words, so no total can
wrap around or be refused.
-/

namespace DiceNotation

def exactSum (vs : List UInt64) : Nat := (vs.map UInt64.toNat).sum

theorem exactSum_cons (v : UInt64) (vs : List UInt64) :
    exactSum (v :: vs) = v.toNat + exactSum vs := List.sum_cons

theorem exactSum_append (vs ws : List UInt64) :
    exactSum (vs ++ ws) = exactSum vs + exactSum ws := by
  rw [exactSum, List.map_append, List.sum_append]
  rfl

theorem exactSum_take_add_drop (vs : List UInt64) (k : Nat) :
    exactSum (vs.take k) + exactSum (vs.drop k) = exactSum vs := by
  rw [← exactSum_append, List.take_append_drop]

theorem exactSum_perm {vs ws : List UInt64} (h : vs.Perm ws) : exactSum vs = exactSum ws :=
  (h.map UInt64.toNat).sum_nat

theorem toNat_sum {vs : List UInt64} (h : exactSum vs < wordCount) :
    (sum vs).toNat = exactSum vs := by
  induction vs with
  | nil => rfl
  | cons v vs ih =>
      rw [exactSum_cons] at h ⊢
      have hvs := ih (by omega)
      rw [sum, List.foldr_cons, UInt64.toNat_add, ← sum, hvs]
      exact Nat.mod_eq_of_lt h

theorem exactSum_le {vs : List UInt64} {m : Nat} (h : ∀ v ∈ vs, v.toNat ≤ m) :
    exactSum vs ≤ vs.length * m := by
  induction vs with
  | nil => exact Nat.zero_le _
  | cons v vs ih =>
      obtain ⟨hv, hvs⟩ := List.forall_mem_cons.mp h
      have hle := ih hvs
      rw [exactSum_cons, List.length_cons, Nat.succ_mul]
      omega

theorem toNat_sum_sub_take {vs ws : List UInt64} (h : exactSum vs < wordCount) (hperm : ws.Perm vs)
    (k : Nat) : (sum vs - sum (ws.take k)).toNat = exactSum (ws.drop k) := by
  have hsplit : exactSum (ws.take k) + exactSum (ws.drop k) = exactSum vs := by
    rw [exactSum_take_add_drop, exactSum_perm hperm]
  have htake : (sum (ws.take k)).toNat = exactSum (ws.take k) := toNat_sum (by omega)
  rw [UInt64.toNat_sub_of_le, toNat_sum h, htake]
  · omega
  · rw [UInt64.le_iff_toNat_le, toNat_sum h, htake]
    omega

theorem toInt_signed {m : UInt64} (h : m.toNat < halfWordCount) (negative : Bool) :
    (if negative then -m.toInt64 else m.toInt64).toInt =
      if negative then -(m.toNat : Int) else m.toNat := by
  have hbound : m.toNat < 2 ^ 63 := h
  have hpos : m.toInt64.toInt = m.toNat := by
    have hword : 2 * m.toBitVec.toNat < 2 ^ 64 := by
      rw [UInt64.toNat_toBitVec]
      omega
    exact BitVec.toInt_eq_toNat_of_lt hword
  cases negative with
  | false => exact hpos
  | true =>
      rw [if_pos rfl, if_pos rfl, Int64.toInt_neg, hpos]
      exact Int.bmod_eq_of_le (by omega) (by omega)

namespace DiceRoll

variable {σ : Type} {src : Source σ} {d : DiceRoll} {s s' : σ}

/-- The values are all that an evaluation of the roll draws. -/
def Completes (d : DiceRoll) (vs : List UInt64) : Prop :=
  (∀ v ∈ vs, OnDie d.faces v) ∧
    match d.modifier with
    | some (.explode limit) =>
      vs.length ≤ maxDice ∧ ∃ runs : List (List UInt64), runs.length = d.count.toNat ∧
        (∀ run ∈ runs, IsRun d.faces limit run) ∧ runs.flatten = vs
    | _ => vs.length = d.count.toNat

def result (d : DiceRoll) (vs : List UInt64) : TermResult where
  term := .dice d
  rolls := some (vs.map (.ofDraw · d.faces))
  trace := some (traceText vs (d.magnitude vs) d.negative)
  total := if d.negative then -(d.magnitude vs).toInt64 else (d.magnitude vs).toInt64

theorem completes_exploding {limit : UInt64} (hm : d.modifier = some (.explode limit))
    {vs : List UInt64} : d.Completes vs ↔ (∀ v ∈ vs, OnDie d.faces v) ∧ vs.length ≤ maxDice ∧
      ∃ runs : List (List UInt64), runs.length = d.count.toNat ∧
        (∀ run ∈ runs, IsRun d.faces limit run) ∧ runs.flatten = vs := by
  rw [Completes, hm]

theorem completes_counted (hm : ∀ limit, d.modifier ≠ some (.explode limit)) {vs : List UInt64} :
    d.Completes vs ↔ (∀ v ∈ vs, OnDie d.faces v) ∧ vs.length = d.count.toNat := by
  unfold Completes
  split
  · rename_i limit hexplode
    exact absurd hexplode (hm limit)
  · rfl

theorem draw_exploding {limit : UInt64} (hm : d.modifier = some (.explode limit)) :
    d.draw src = src.explodingDice d.faces limit d.count.toNat maxDice := by
  rw [draw, hm]

theorem draw_counted (hm : ∀ limit, d.modifier ≠ some (.explode limit)) :
    d.draw src = src.dice d.faces d.count.toNat := by
  unfold draw
  split
  · rename_i limit hexplode
    exact absurd hexplode (hm limit)
  · rfl

theorem runOn_draw_eq_ok_iff {os : List Outcome} :
    (d.draw src).runOn s = (.ok os, s') ↔
      ∃ vs, d.Completes vs ∧ src.Draws d.faces vs s s' ∧ os = vs.map (.ofDraw · d.faces) := by
  by_cases hm : ∃ limit, d.modifier = some (.explode limit)
  · obtain ⟨limit, hm⟩ := hm
    rw [draw_exploding hm, Source.runOn_explodingDice_eq_ok_iff]
    constructor
    · intro h
      obtain ⟨runs, hlength, hruns, hvs, hroom, hdraws, hos⟩ := h
      exact ⟨runs.flatten, (completes_exploding hm).mpr ⟨hvs, hroom, runs, hlength, hruns, rfl⟩,
        hdraws, hos⟩
    · intro h
      obtain ⟨vs, hvs, hdraws, hos⟩ := h
      obtain ⟨hon, hroom, runs, hlength, hruns, rfl⟩ := (completes_exploding hm).mp hvs
      exact ⟨runs, hlength, hruns, hon, hroom, hdraws, hos⟩
  · have hm := not_exists.mp hm
    rw [draw_counted hm, Source.runOn_dice_eq_ok_iff]
    constructor
    · intro h
      obtain ⟨vs, hlength, hon, hdraws, hos⟩ := h
      exact ⟨vs, (completes_counted hm).mpr ⟨hon, hlength⟩, hdraws, hos⟩
    · intro h
      obtain ⟨vs, hvs, hdraws, hos⟩ := h
      obtain ⟨hon, hlength⟩ := (completes_counted hm).mp hvs
      exact ⟨vs, hlength, hon, hdraws, hos⟩

theorem bounds_of_fault? (h : d.fault? = none) :
    (1 ≤ d.count.toNat ∧ d.count.toNat ≤ maxDice) ∧
      1 ≤ d.faces.toNat ∧ d.faces.toNat ≤ maxFaces := by
  unfold fault? at h
  split at h
  · cases h
  rename_i hfaces
  split at h
  · cases h
  rename_i hcount
  split at h
  · cases h
  rename_i hmany
  split at h
  · cases h
  rename_i hlarge
  rw [UInt64.lt_iff_toNat_lt] at hfaces hcount
  exact ⟨⟨Nat.le_of_not_lt hcount, Nat.le_of_not_lt hmany⟩,
    Nat.le_of_not_lt hfaces, Nat.le_of_not_lt hlarge⟩

theorem Completes.length_le {vs : List UInt64} (h : d.Completes vs) (hfault : d.fault? = none) :
    vs.length ≤ maxDice := by
  obtain ⟨-, hvs⟩ := h
  obtain ⟨⟨-, hcount⟩, -⟩ := bounds_of_fault? hfault
  -- Explosions are bounded by the room, all other rolls by the check of the count.
  split at hvs
  · exact hvs.1
  · exact hvs ▸ hcount

theorem Completes.exactSum_le {vs : List UInt64} (h : d.Completes vs) (hfault : d.fault? = none) :
    exactSum vs ≤ maxDice * maxFaces := by
  obtain ⟨-, -, hfaces⟩ := bounds_of_fault? hfault
  have hvalues : ∀ v ∈ vs, v.toNat ≤ maxFaces := by
    intro v hv
    exact Nat.le_trans (UInt64.le_iff_toNat_le.mp (h.1 v hv).2) hfaces
  exact Nat.le_trans (DiceNotation.exactSum_le hvalues)
    (Nat.mul_le_mul_right maxFaces (h.length_le hfault))

theorem magnitude.sorted_perm (vs : List UInt64) : (magnitude.sorted vs).Perm vs :=
  List.mergeSort_perm vs _

theorem magnitude_le {vs : List UInt64} (h : exactSum vs < wordCount) :
    (d.magnitude vs).toNat ≤ exactSum vs := by
  have hdrop {ws : List UInt64} (hperm : ws.Perm vs) (k : Nat) :
      (sum vs - sum (ws.take k)).toNat ≤ exactSum vs := by
    rw [toNat_sum_sub_take h hperm, ← exactSum_perm hperm, ← exactSum_take_add_drop ws k]
    exact Nat.le_add_left _ _
  unfold magnitude
  split
  · exact hdrop (magnitude.sorted_perm vs) _
  · exact hdrop ((List.reverse_perm _).trans (magnitude.sorted_perm vs)) _
  · exact Nat.le_of_eq (toNat_sum h)

theorem Completes.magnitude_lt {vs : List UInt64} (h : d.Completes vs) (hfault : d.fault? = none) :
    (d.magnitude vs).toNat < halfWordCount := by
  have hsum := h.exactSum_le hfault
  have hmagnitude := magnitude_le (d := d) (Nat.lt_of_le_of_lt hsum (by decide))
  exact Nat.lt_of_le_of_lt (Nat.le_trans hmagnitude hsum) (by decide)

theorem runOn_evaluate_of_draw_error {e : EvaluationFault} (hfault : d.fault? = none)
    (h : (d.draw src).runOn s = (.error e, s')) : (d.evaluate src).runOn s = (.error e, s') := by
  unfold evaluate
  rw [hfault]
  exact Rolling.runOn_bind_error h _

theorem runOn_evaluate_of_draw {vs : List UInt64} (hfault : d.fault? = none) (hvs : d.Completes vs)
    (h : (d.draw src).runOn s = (.ok (vs.map (.ofDraw · d.faces)), s')) :
    (d.evaluate src).runOn s = (.ok (d.result vs), s') := by
  unfold evaluate
  rw [hfault]
  refine (Rolling.runOn_bind_ok h _).trans ?_
  simp only [Outcome.map_value_ofDraw]
  rw [if_neg (Nat.not_le_of_lt (hvs.magnitude_lt hfault))]
  rfl

/-- A dice term succeeds exactly on a complete sequence of draws, which decides the result. -/
theorem runOn_evaluate_eq_ok_iff {r : TermResult} :
    (d.evaluate src).runOn s = (.ok r, s') ↔
      d.fault? = none ∧ ∃ vs, d.Completes vs ∧ src.Draws d.faces vs s s' ∧ r = d.result vs := by
  constructor
  · intro h
    cases hfault : d.fault? with
    | some fault =>
        unfold evaluate at h
        rw [hfault] at h
        cases h
    | none =>
        refine ⟨rfl, ?_⟩
        cases hdraw : (d.draw src).runOn s with
        | mk outcome next =>
            cases outcome with
            | error e =>
                rw [runOn_evaluate_of_draw_error hfault hdraw] at h
                cases h
            | ok os =>
                obtain ⟨vs, hvs, hdraws, rfl⟩ := runOn_draw_eq_ok_iff.mp hdraw
                rw [runOn_evaluate_of_draw hfault hvs hdraw] at h
                cases h
                exact ⟨vs, hvs, hdraws, rfl⟩
  · intro h
    obtain ⟨hfault, vs, hvs, hdraws, rfl⟩ := h
    exact runOn_evaluate_of_draw hfault hvs (runOn_draw_eq_ok_iff.mpr ⟨vs, hvs, hdraws, rfl⟩)

theorem toInt_total_result {vs : List UInt64} (hfault : d.fault? = none) (hvs : d.Completes vs) :
    (d.result vs).total.toInt =
      if d.negative then -((d.magnitude vs).toNat : Int) else (d.magnitude vs).toNat :=
  toInt_signed (hvs.magnitude_lt hfault) d.negative

theorem natAbs_total_result {vs : List UInt64} (hfault : d.fault? = none) (hvs : d.Completes vs) :
    (d.result vs).total.toInt.natAbs = (d.magnitude vs).toNat := by
  rw [toInt_total_result hfault hvs]
  split
  · exact (Int.natAbs_neg _).trans (Int.natAbs_natCast _)
  · exact Int.natAbs_natCast _

theorem fault?_exploding {limit : UInt64} (hm : d.modifier = some (.explode limit))
    (hcount : 1 ≤ d.count.toNat ∧ d.count.toNat ≤ maxDice)
    (hfaces : 1 ≤ d.faces.toNat ∧ d.faces.toNat ≤ maxFaces)
    (hends : ¬(limit = 0 ∧ d.faces = 1)) : d.fault? = none := by
  have hnoFaces : ¬ d.faces < 1 := fun h => Nat.not_lt.mpr hfaces.1 (UInt64.lt_iff_toNat_lt.mp h)
  have hnoDice : ¬ d.count < 1 := fun h => Nat.not_lt.mpr hcount.1 (UInt64.lt_iff_toNat_lt.mp h)
  rw [fault?, if_neg hnoFaces, if_neg hnoDice, if_neg (Nat.not_lt.mpr hcount.2),
    if_neg (Nat.not_lt.mpr hfaces.2), hm]
  exact if_neg hends

end DiceRoll

/-- The draws of a source begin with complete runs, one for each of `count` exploding dice, and all
of them can be recorded. -/
structure Source.CompletesRuns {σ : Type} (src : Source σ) (faces limit : UInt64) (count : Nat)
    (s : σ) (runs : List (List UInt64)) (s' : σ) : Prop where
  length_eq : runs.length = count
  isRun : ∀ run ∈ runs, IsRun faces limit run
  room : runs.flatten.length ≤ maxDice
  draws : src.Draws faces runs.flatten s s'

theorem Source.not_completesRuns_steady {faces : UInt64} {runs : List (List UInt64)} {n n' : Nat} :
    ¬ steady.CompletesRuns faces 0 1 n runs n' := by
  rintro ⟨hlength, hruns, -, hdraws⟩
  obtain ⟨run, rfl⟩ := List.length_eq_one_iff.mp hlength
  rw [List.flatten_cons, List.flatten_nil, List.append_nil] at hdraws
  exact not_isRun_of_draws_steady hdraws (hruns run (List.mem_singleton_self run))

theorem runOn_evaluate_incomplete {σ : Type} {src : Source σ} {s : σ} {d : DiceRoll}
    {limit : UInt64} (hmodifier : d.modifier = some (.explode limit)) (hfault : d.fault? = none)
    (hsource : src.KeepsTo d.faces s)
    (hnone : ¬∃ runs s', src.CompletesRuns d.faces limit d.count.toNat s runs s') :
    ∃ vs s', vs.length = maxDice + 1 ∧ src.Draws d.faces vs s s' ∧
      (d.evaluate src).runOn s = (.error .tooManyDraws, s') := by
  rcases Source.runOn_explodingDice_total limit d.count.toNat maxDice hsource with
    ⟨os, s', hos⟩ | ⟨vs, s', hlength, hvs, hos⟩
  · obtain ⟨runs, hlength, hruns, -, hroom, hdraws, -⟩ :=
      Source.runOn_explodingDice_eq_ok_iff.mp hos
    exact absurd ⟨runs, s', hlength, hruns, hroom, hdraws⟩ hnone
  · refine ⟨vs, s', hlength, hvs, DiceRoll.runOn_evaluate_of_draw_error hfault ?_⟩
    rw [DiceRoll.draw_exploding hmodifier]
    exact hos

/-- An exploding roll takes the runs of its dice from the source, records their values in order and
adds them up. Every die begins a run of its own. If the runs do not fit the room, the roll fails
with one draw more than there is room for. -/
theorem evaluate_exploding {σ : Type} (src : Source σ) (s : σ) (d : DiceRoll) (limit : UInt64)
    (hmodifier : d.modifier = some (.explode limit))
    (hcount : 1 ≤ d.count.toNat ∧ d.count.toNat ≤ maxDice)
    (hfaces : 1 ≤ d.faces.toNat ∧ d.faces.toNat ≤ maxFaces)
    (hends : ¬(limit = 0 ∧ d.faces = 1)) (hsource : src.KeepsTo d.faces s) :
    (∀ runs s', src.CompletesRuns d.faces limit d.count.toNat s runs s' →
      ∃ r, (d.evaluate src).runOn s = (.ok r, s') ∧
        r.rolls.map (List.map Outcome.value) = some runs.flatten ∧
        r.total.toInt.natAbs = (runs.flatten.map UInt64.toNat).sum) ∧
    ((¬∃ runs s', src.CompletesRuns d.faces limit d.count.toNat s runs s') →
      ∃ vs s', vs.length = maxDice + 1 ∧ src.Draws d.faces vs s s' ∧
        (d.evaluate src).runOn s = (.error .tooManyDraws, s')) := by
  have hfault := DiceRoll.fault?_exploding hmodifier hcount hfaces hends
  constructor
  · intro runs s' h
    have hvs : d.Completes runs.flatten := (DiceRoll.completes_exploding hmodifier).mpr
      ⟨hsource _ _ h.draws, h.room, runs, h.length_eq, h.isRun, rfl⟩
    refine ⟨d.result runs.flatten,
      DiceRoll.runOn_evaluate_eq_ok_iff.mpr ⟨hfault, _, hvs, h.draws, rfl⟩, ?_, ?_⟩
    · simp [DiceRoll.result, Function.comp_def]
    · have hmagnitude : (d.magnitude runs.flatten).toNat = exactSum runs.flatten := by
        rw [DiceRoll.magnitude, hmodifier]
        exact toNat_sum (Nat.lt_of_le_of_lt (hvs.exactSum_le hfault) (by decide))
      rw [DiceRoll.toInt_total_result hfault hvs, hmagnitude]
      split
      · exact (Int.natAbs_neg _).trans (Int.natAbs_natCast _)
      · exact Int.natAbs_natCast _
  · exact runOn_evaluate_incomplete hmodifier hfault hsource

/-- The first of two dice explodes as often as it may and keeps its last six, the second one begins
anew. One die that shows nothing but sixes may explode 4999 times; without a limit it fails with its
draw 5001. -/
theorem evaluate_exploding_two :
    (∃ r, ((⟨"2d6!3", false, 2, 6, some (.explode 3)⟩ : DiceRoll).evaluate
        ⟨fun faces n => (if n % 5 = 4 then 2 else faces, n + 1), fun _ _ => true⟩).runOn 0 =
          (.ok r, 5) ∧
      r.rolls.map (List.map Outcome.value) = some [6, 6, 6, 6, 2] ∧ r.total.toInt.natAbs = 26) ∧
    (∃ r, ((⟨"d6!4999", false, 1, 6, some (.explode 4999)⟩ : DiceRoll).evaluate
        Source.steady).runOn 0 = (.ok r, 5000) ∧ r.total.toInt.natAbs = 30000) ∧
    ((⟨"d6!", false, 1, 6, some (.explode 0)⟩ : DiceRoll).evaluate Source.steady).runOn 0 =
      (.error .tooManyDraws, 5001) := by
  let src : Source Nat := ⟨fun faces n => (if n % 5 = 4 then 2 else faces, n + 1), fun _ _ => true⟩
  refine ⟨?_, ?_, ?_⟩
  · have hsource : src.KeepsTo 6 0 := by
      apply Source.keepsTo_of_forall
      intro n
      dsimp only [src]
      split <;> decide
    have hfirst : IsRun 6 3 [6, 6, 6, 6] := ⟨3, 6, rfl, .inr (by decide), .inr ⟨by decide, rfl⟩⟩
    have hsecond : IsRun 6 3 [2] := ⟨0, 2, rfl, .inr (by decide), .inl (by decide)⟩
    have hruns : src.CompletesRuns 6 3 2 0 [[6, 6, 6, 6], [2]] 5 :=
      { length_eq := rfl
        isRun := List.forall_mem_cons.mpr ⟨hfirst, List.forall_mem_singleton.mpr hsecond⟩
        room := by decide
        draws := ⟨1, rfl, 2, rfl, 3, rfl, 4, rfl, 5, rfl, rfl⟩ }
    exact (evaluate_exploding src 0 ⟨"2d6!3", false, 2, 6, some (.explode 3)⟩ 3 rfl (by decide)
      (by decide) (by decide) hsource).1 _ _ hruns
  · have hrun : IsRun 6 4999 (List.replicate 5000 6) :=
      ⟨4999, 6, List.replicate_succ', .inr (by decide), .inr ⟨by decide, rfl⟩⟩
    have hroom (n : Nat) : [List.replicate n (6 : UInt64)].flatten.length = n := by simp
    have hdraws (n : Nat) : Source.steady.Draws 6 [List.replicate n 6].flatten 0 n :=
      Source.draws_steady_iff.mpr (by simp)
    have hsum (n : Nat) :
        ([List.replicate n (6 : UInt64)].flatten.map UInt64.toNat).sum = n * 6 := by simp
    have hruns : Source.steady.CompletesRuns 6 4999 1 0 [List.replicate 5000 6] 5000 :=
      { length_eq := rfl
        isRun := List.forall_mem_singleton.mpr hrun
        room := Nat.le_of_eq (hroom 5000)
        draws := hdraws 5000 }
    obtain ⟨r, hr, -, htotal⟩ := (evaluate_exploding Source.steady 0
      ⟨"d6!4999", false, 1, 6, some (.explode 4999)⟩ 4999 rfl (by decide) (by decide) (by decide)
      (Source.keepsTo_steady (by decide) 0)).1 _ _ hruns
    exact ⟨r, hr, htotal.trans (hsum 5000)⟩
  · obtain ⟨vs, n, hlength, hdraws, hevaluate⟩ := (evaluate_exploding Source.steady 0
      ⟨"d6!", false, 1, 6, some (.explode 0)⟩ 0 rfl (by decide) (by decide) (by decide)
      (Source.keepsTo_steady (by decide) 0)).2
      fun ⟨_, _, hruns⟩ => Source.not_completesRuns_steady hruns
    obtain ⟨-, rfl⟩ := Source.draws_steady_iff.mp hdraws
    rw [hevaluate, hlength]
    rfl

end DiceNotation
