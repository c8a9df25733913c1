import DiceNotation.Console.Session
import DiceNotation.Proofs.FirstFailure
import DiceNotation.Proofs.Seeds
import Mathlib.Algebra.Order.Floor.Div
import Mathlib.Data.Set.Card
import Mathlib.Dynamics.PeriodicPts.Defs
import Mathlib.Order.Interval.Finset.Nat

/-! # Fair dice

A die is thrown with the first number of a stream that is accepted. The numbers
accepted for one of its faces are a stretch of consecutive numbers, and these
stretches are equally long, for the zone is a multiple of the faces. The face of
any number is on the die, accepted or not. A generator's stream repeats after a
period, so the search within one finds the first accepted number of the stream
wherever that is.
-/

namespace DiceNotation

namespace Uniform

section

variable {σ : Type} (next : σ → UInt64 × σ)

/-- The state after so many numbers of the stream. -/
def after (s : σ) (i : Nat) : σ := (fun s => (next s).2)^[i] s

/-- The number at an index of the stream. -/
def number (s : σ) (i : Nat) : UInt64 := (next (after next s i)).1

/-- The first number that is accepted stands at this index of the stream. -/
structure FirstAccepted (faces : UInt64) (s : σ) (i : Nat) : Prop where
  accepted : accepts faces (number next s i) = true
  passed_over : ∀ j < i, accepts faces (number next s j) = false

variable {next} {faces : UInt64} {s : σ} {i : Nat}

theorem after_succ (s : σ) (i : Nat) : after next s (i + 1) = after next (next s).2 i :=
  Function.iterate_succ_apply _ i s

theorem after_add (s : σ) (i j : Nat) : after next s (i + j) = after next (after next s i) j := by
  rw [Nat.add_comm]
  exact Function.iterate_add_apply _ j i s

theorem number_succ (s : σ) (i : Nat) : number next s (i + 1) = number next (next s).2 i := by
  rw [number, after_succ, number]

theorem exists_firstAccepted (h : ∃ i, accepts faces (number next s i) = true) :
    ∃ i, FirstAccepted next faces s i := by
  refine ⟨Nat.find h, Nat.find_spec h, ?_⟩
  intro j hj
  exact Bool.eq_false_iff.mpr (Nat.find_min h hj)

theorem FirstAccepted.unique {j : Nat} (h : FirstAccepted next faces s i)
    (h' : FirstAccepted next faces s j) : i = j := by
  rcases Nat.lt_trichotomy i j with hlt | heq | hgt
  · exact absurd h.accepted (Bool.eq_false_iff.mp (h'.passed_over i hlt))
  · exact heq
  · exact absurd h'.accepted (Bool.eq_false_iff.mp (h.passed_over j hgt))

theorem FirstAccepted.tail (h : FirstAccepted next faces s (i + 1)) :
    FirstAccepted next faces (next s).2 i := by
  refine ⟨?_, ?_⟩
  · rw [← number_succ]
    exact h.accepted
  · intro j hj
    rw [← number_succ]
    exact h.passed_over (j + 1) (Nat.succ_lt_succ hj)

theorem pick_of_accepts (h : accepts faces (next s).1 = true) (fuel : Nat) :
    pick next faces fuel s = (face faces (next s).1, (next s).2) := by
  cases fuel with
  | zero => rfl
  | succ fuel =>
      rw [pick]
      exact if_pos h

theorem pick_of_rejects (h : accepts faces (next s).1 = false) (fuel : Nat) :
    pick next faces (fuel + 1) s = pick next faces fuel (next s).2 := by
  rw [pick]
  exact if_neg (Bool.eq_false_iff.mp h)

/-- The search ends with the first number that is accepted, if it may go on for so long. -/
theorem FirstAccepted.pick_eq (h : FirstAccepted next faces s i) {fuel : Nat} (hi : i ≤ fuel) :
    pick next faces fuel s = (face faces (number next s i), after next s (i + 1)) := by
  induction i generalizing s fuel with
  | zero => exact pick_of_accepts h.accepted fuel
  | succ i ih =>
      cases fuel with
      | zero => exact absurd hi (Nat.not_succ_le_zero i)
      | succ fuel =>
          have hpassed : accepts faces (next s).1 = false := h.passed_over 0 (Nat.succ_pos i)
          rw [pick_of_rejects hpassed, ih h.tail (Nat.le_of_succ_le_succ hi), number_succ,
            after_succ s (i + 1)]

theorem FirstAccepted.lt_period (h : FirstAccepted next faces s i) {period : Nat}
    (hpos : 0 < period) (hs : Function.IsPeriodicPt (fun s => (next s).2) period s) :
    i < period := by
  by_contra hge
  -- The same number stands in the first period, and there it would have been accepted before.
  have hnumber : number next s (i % period) = number next s i := by
    rw [number, number, after, after, hs.iterate_mod_apply]
  have hpassed := h.passed_over (i % period)
    (Nat.lt_of_lt_of_le (Nat.mod_lt i hpos) (Nat.le_of_not_lt hge))
  rw [hnumber, h.accepted] at hpassed
  cases hpassed

theorem exists_pick_eq (next : σ → UInt64 × σ) (faces : UInt64) (fuel : Nat) (s : σ) :
    ∃ i, pick next faces fuel s = (face faces (number next s i), after next s (i + 1)) := by
  induction fuel generalizing s with
  | zero => exact ⟨0, rfl⟩
  | succ fuel ih =>
      cases haccepted : accepts faces (next s).1 with
      | true => exact ⟨0, pick_of_accepts haccepted (fuel + 1)⟩
      | false =>
          obtain ⟨i, hi⟩ := ih (next s).2
          refine ⟨i + 1, ?_⟩
          rw [pick_of_rejects haccepted, hi, number_succ, after_succ s (i + 1)]

end

/-! ## The numbers of a face -/

variable {faces value v : UInt64}

theorem toNat_pos (h : faces ≠ 0) : 0 < faces.toNat :=
  UInt64.lt_iff_toNat_lt.mp (UInt64.pos_iff_ne_zero.mpr h)

theorem log2_add_leadingZeros (h : faces ≠ 0) :
    faces.toNat.log2 + (leadingZeros faces).toNat = 63 := by
  have hne : faces.toNat ≠ 0 := Nat.ne_of_gt (toNat_pos h)
  have hlog : faces.toNat.log2 ≤ 63 := Nat.le_of_lt_succ ((Nat.log2_lt hne).mpr faces.toNat_lt)
  have hzeros : (leadingZeros faces).toNat = 63 - faces.toNat.log2 :=
    UInt64.toNat_sub_of_le _ _ (UInt64.le_iff_toNat_le.mpr hlog)
  rw [hzeros, Nat.add_sub_cancel' hlog]

theorem leadingZeros_bounds (h : faces ≠ 0) :
    halfWordCount ≤ faces.toNat * 2 ^ (leadingZeros faces).toNat ∧
      faces.toNat * 2 ^ (leadingZeros faces).toNat < wordCount := by
  have hne : faces.toNat ≠ 0 := Nat.ne_of_gt (toNat_pos h)
  have hzeros := log2_add_leadingZeros h
  constructor
  · calc halfWordCount = 2 ^ faces.toNat.log2 * 2 ^ (leadingZeros faces).toNat := by
          rw [← Nat.pow_add, hzeros]
          rfl
      _ ≤ faces.toNat * 2 ^ (leadingZeros faces).toNat :=
          Nat.mul_le_mul_right _ (Nat.log2_self_le hne)
  · calc faces.toNat * 2 ^ (leadingZeros faces).toNat
        < 2 ^ (faces.toNat.log2 + 1) * 2 ^ (leadingZeros faces).toNat :=
          Nat.mul_lt_mul_of_pos_right Nat.lt_log2_self (Nat.two_pow_pos _)
      _ = wordCount := by
          rw [← Nat.pow_add, Nat.add_right_comm, hzeros]
          rfl

theorem toNat_zone (h : faces ≠ 0) :
    (zone faces).toNat + 1 = faces.toNat * 2 ^ (leadingZeros faces).toNat := by
  obtain ⟨hlow, hhigh⟩ := leadingZeros_bounds h
  have hpos : 1 ≤ faces.toNat * 2 ^ (leadingZeros faces).toNat := Nat.le_trans (by decide) hlow
  have hshift : (faces <<< leadingZeros faces).toNat =
      faces.toNat * 2 ^ (leadingZeros faces).toNat := by
    have hzeros : (leadingZeros faces).toNat < 64 :=
      Nat.lt_succ_of_le (Nat.le.intro ((Nat.add_comm _ _).trans (log2_add_leadingZeros h)))
    rw [UInt64.toNat_shiftLeft, Nat.mod_eq_of_lt hzeros, Nat.shiftLeft_eq]
    exact Nat.mod_eq_of_lt hhigh
  have hone : 1 ≤ faces <<< leadingZeros faces := by
    rw [UInt64.le_iff_toNat_le, hshift]
    exact hpos
  rw [zone, UInt64.toNat_sub_of_le _ _ hone, hshift]
  exact Nat.sub_add_cancel hpos

theorem accepts_iff (h : faces ≠ 0) : accepts faces v = true ↔
    v.toNat * faces.toNat % wordCount < faces.toNat * 2 ^ (leadingZeros faces).toNat := by
  rw [accepts, decide_eq_true_iff, ← toNat_zone h]
  exact Nat.lt_succ_iff.symm

theorem scaled_lt (h : faces ≠ 0) (v : UInt64) :
    v.toNat * faces.toNat / wordCount < faces.toNat :=
  Nat.div_lt_of_lt_mul (Nat.mul_lt_mul_of_pos_right v.toNat_lt (toNat_pos h))

theorem toNat_face (h : faces ≠ 0) (v : UInt64) :
    (face faces v).toNat = 1 + v.toNat * faces.toNat / wordCount := by
  have hlt := scaled_lt h v
  have hfaces : faces.toNat < UInt64.size := faces.toNat_lt
  exact UInt64.toNat_ofNat_of_lt' (by omega)

theorem onDie_face (h : faces ≠ 0) (v : UInt64) : OnDie faces (face faces v) := by
  have hlt := scaled_lt h v
  have hface := toNat_face h v
  constructor
  · rw [UInt64.le_iff_toNat_le, hface]
    exact Nat.le_add_right _ _
  · rw [UInt64.le_iff_toNat_le, hface]
    omega

/-- The first number that is accepted for a face; those before it are scaled to lower faces. -/
def firstNumber (faces value : UInt64) : Nat := ((value.toNat - 1) * wordCount) ⌈/⌉ faces.toNat

theorem firstNumber_add_le_iff (h : faces ≠ 0) (value : UInt64) (count n : Nat) :
    firstNumber faces value + count ≤ n ↔
      (value.toNat - 1) * wordCount + faces.toNat * count ≤ faces.toNat * n := by
  have hpos := toNat_pos h
  rw [← ceilDiv_le_iff_le_mul hpos, firstNumber, Nat.ceilDiv_eq_add_pred_div,
    Nat.ceilDiv_eq_add_pred_div, ← Nat.add_mul_div_left _ _ hpos]
  have hsum : (value.toNat - 1) * wordCount + faces.toNat * count + faces.toNat - 1 =
      (value.toNat - 1) * wordCount + faces.toNat - 1 + faces.toNat * count := by omega
  rw [hsum]

/-- The numbers accepted for a face follow one another, and all faces have as many of them. -/
theorem accepts_face_iff (h : faces ≠ 0) (hvalue : OnDie faces value) :
    accepts faces v = true ∧ face faces v = value ↔
      firstNumber faces value ≤ v.toNat ∧
        v.toNat < firstNumber faces value + 2 ^ (leadingZeros faces).toNat := by
  have hface : face faces v = value ↔ v.toNat * faces.toNat / wordCount = value.toNat - 1 := by
    have hone : 1 ≤ value.toNat := UInt64.le_iff_toNat_le.mp hvalue.1
    rw [← UInt64.toNat_inj, toNat_face h]
    omega
  have hbelow : faces.toNat * 2 ^ (leadingZeros faces).toNat < wordCount :=
    (leadingZeros_bounds h).2
  have hfirst := firstNumber_add_le_iff h value 0 v.toNat
  have hlast := firstNumber_add_le_iff h value (2 ^ (leadingZeros faces).toNat) v.toNat
  -- The product lies between multiples of the word count: its high half is fixed by the face, and
  -- its low half is below the zone, which leaves the multiples of `faces` in one stretch.
  rw [accepts_iff h, hface, Nat.mul_comm v.toNat]
  unfold wordCount at *
  omega

theorem firstNumber_add_le (h : faces ≠ 0) (hvalue : OnDie faces value) :
    firstNumber faces value + 2 ^ (leadingZeros faces).toNat ≤ wordCount := by
  have hbelow : faces.toNat * 2 ^ (leadingZeros faces).toNat < wordCount :=
    (leadingZeros_bounds h).2
  have hone : 1 ≤ value.toNat := UInt64.le_iff_toNat_le.mp hvalue.1
  have hle : value.toNat ≤ faces.toNat := UInt64.le_iff_toNat_le.mp hvalue.2
  rw [firstNumber_add_le_iff h]
  unfold wordCount at *
  omega

theorem ncard_accepts_face (h : faces ≠ 0) (hvalue : OnDie faces value) :
    {v | accepts faces v = true ∧ face faces v = value}.ncard =
      2 ^ (leadingZeros faces).toNat := by
  have hstretch : UInt64.toNat '' {v | accepts faces v = true ∧ face faces v = value} =
      Set.Ico (firstNumber faces value)
        (firstNumber faces value + 2 ^ (leadingZeros faces).toNat) := by
    ext n
    constructor
    · rintro ⟨v, hv, rfl⟩
      exact (accepts_face_iff h hvalue).mp hv
    · rintro ⟨hlow, hhigh⟩
      have hn : (UInt64.ofNat n).toNat = n :=
        UInt64.toNat_ofNat_of_lt' (Nat.lt_of_lt_of_le hhigh (firstNumber_add_le h hvalue))
      refine ⟨UInt64.ofNat n, ?_, hn⟩
      refine (accepts_face_iff h hvalue).mpr ?_
      rw [hn]
      exact ⟨hlow, hhigh⟩
  rw [← Set.ncard_image_of_injective _ fun _ _ => UInt64.toNat_inj.mp, hstretch]
  simp [Set.ncard_eq_toFinset_card']

end Uniform

namespace Generator

/-! ## The period of a generator -/

variable {start g : Generator} {xs : List Throw}

theorem after_ready (key : ChaCha.Key) (counter : UInt64) (vs : List UInt64) :
    Uniform.after next ⟨key, counter, vs⟩ vs.length = ⟨key, counter, []⟩ := by
  induction vs with
  | nil => rfl
  | cons v vs ih =>
      rw [List.length_cons, Uniform.after_succ]
      exact ih

theorem after_block (key : ChaCha.Key) (counter : UInt64) :
    Uniform.after next ⟨key, counter, []⟩ 8 = ⟨key, counter + 1, []⟩ := by
  rw [Uniform.after_succ]
  -- The first number makes the block, and the other seven are ready after it.
  exact after_ready key (counter + 1) (ChaCha.pairs (key.block counter).toList).tail

theorem after_blocks (key : ChaCha.Key) (counter : UInt64) (n : Nat) :
    Uniform.after next ⟨key, counter, []⟩ (8 * n) = ⟨key, counter + UInt64.ofNat n, []⟩ := by
  induction n with
  | zero => exact congrArg (Generator.mk key · []) (UInt64.add_zero counter).symm
  | succ n ih =>
      rw [Nat.mul_succ, Uniform.after_add, ih, after_block, UInt64.add_assoc]
      exact congrArg (fun c => Generator.mk key (counter + c) []) (UInt64.ofNat_add n 1).symm

theorem isPeriodicPt_next (h : start.ready = []) :
    Function.IsPeriodicPt (fun g => (next g).2) period start := by
  obtain ⟨key, counter, ready⟩ := start
  obtain rfl : ready = [] := h
  have hwrap : counter + UInt64.ofNat wordCount = counter := UInt64.add_zero counter
  have hblocks := after_blocks key counter wordCount
  rwa [hwrap] at hblocks

theorem exists_after_of_serves (h : source.Serves xs start g) :
    ∃ k, g = Uniform.after next start k := by
  induction xs generalizing start with
  | nil => exact ⟨0, h.symm⟩
  | cons x xs ih =>
      obtain ⟨mid, hdraw, hserves⟩ := h
      obtain ⟨i, hpick⟩ := Uniform.exists_pick_eq next x.faces period start
      obtain rfl : mid = Uniform.after next start (i + 1) :=
        congrArg Prod.snd (hdraw.symm.trans hpick)
      obtain ⟨k, rfl⟩ := ih hserves
      exact ⟨i + 1 + k, (Uniform.after_add start (i + 1) k).symm⟩

theorem draw_eq (hstart : start.ready = []) (hserves : source.Serves xs start g) {faces : UInt64}
    {i : Nat} (h : Uniform.FirstAccepted next faces g i) :
    source.draw faces g =
      (Uniform.face faces (Uniform.number next g i), Uniform.after next g (i + 1)) := by
  obtain ⟨k, rfl⟩ := exists_after_of_serves hserves
  have hperiodic := (isPeriodicPt_next hstart).apply_iterate k
  exact h.pick_eq (Nat.le_of_lt (h.lt_period (by decide) hperiodic))

end Generator

/-! ## No bad draws -/

/-- In every state the source throws a face of the die it is asked for. -/
def Source.Honest {σ : Type} (src : Source σ) : Prop :=
  ∀ faces s, faces ≠ 0 → OnDie faces (src.draw faces s).1

section

variable {σ : Type} {src : Source σ}

theorem Term.Course.ne_badDraw {t : Term} {xs : List Throw}
    {outcome : Except EvaluationFault TermResult} (h : t.Course xs outcome)
    (hxs : ∀ x ∈ xs, OnDie x.faces x.value) (value faces : UInt64) :
    outcome ≠ .error (.badDraw value faces) := by
  rintro rfl
  cases h with
  | refused hfault =>
      obtain ⟨rank, hobjection, -⟩ := DiceRoll.fault?_eq_some_iff.mp hfault
      cases hobjection
  | @badDraw d vs _ _ _ hoff _ _ => exact hoff (hxs ⟨d.faces, value⟩ (by simp))

theorem Source.Honest.evaluate_ne_badDraw (hsrc : src.Honest) (t : Term) (s : σ)
    (value faces : UInt64) :
    ((t.evaluate src).runOn s).1 ≠ .error (.badDraw value faces) := by
  obtain ⟨hcourse, hserves⟩ := t.course_thrown src s
  refine hcourse.ne_badDraw (hcourse.onDie_of_keepsTo hserves ?_) value faces
  intro d _ hfaces
  exact Source.keepsTo_of_forall (fun s => hsrc d.faces s hfaces) s

theorem Source.Honest.evaluateAll_ne_badDraw (hsrc : src.Honest) (bs : List Batch)
    (thresholds : Thresholds) (s : σ) (value faces : UInt64) :
    ((evaluateAll bs thresholds src).runOn s).1 ≠ .error (.badDraw value faces) := by
  intro h
  have hstops := runOn_evaluateAll_eq_error_iff.mp ⟨Prod.ext h rfl, rfl⟩
  generalize stepsOf bs = all, thrownAll bs thresholds src s = throws at hstops
  cases hstops with
  | intro _ hfails =>
      cases hfails with
      | term hrun => exact hsrc.evaluate_ne_badDraw _ _ value faces (congrArg Prod.fst hrun)

theorem Source.Honest.roll_ne_badDraw (hsrc : src.Honest) (formula : String)
    (thresholds : Thresholds) (s : σ) (value faces : UInt64) :
    (roll formula thresholds src s).1 ≠ .error (.evaluation (.badDraw value faces)) := by
  intro h
  cases hparse : parse formula with
  | error e => simp [roll_of_parse_error hparse] at h
  | ok bs =>
      rw [roll_of_parse hparse] at h
      cases hrun : ((evaluateAll bs thresholds src).runOn s).1 with
      | ok R => simp [hrun, Except.mapError] at h
      | error e =>
          simp only [hrun, Except.mapError, Except.error.injEq, RollError.evaluation.injEq] at h
          obtain rfl := h
          exact hsrc.evaluateAll_ne_badDraw bs thresholds s value faces hrun

end

theorem Generator.honest_source : source.Honest := by
  intro faces g h
  obtain ⟨i, hpick⟩ := Uniform.exists_pick_eq next faces period g
  have hvalue : (source.draw faces g).1 = Uniform.face faces (Uniform.number next g i) :=
    congrArg Prod.fst hpick
  rw [hvalue]
  exact Uniform.onDie_face h _

theorem evaluateSeeded_ne_badDraw (bs : List Batch) (thresholds : Thresholds) (seed : UInt64)
    (value faces : UInt64) :
    evaluateSeeded thresholds seed bs ≠ .error (.badDraw value faces) := by
  intro h
  obtain ⟨i, b, -, hfresh, -⟩ := evaluateSeeded_eq_error_iff.mp h
  apply Generator.honest_source.evaluateAll_ne_badDraw [b] thresholds
    (Generator.ofSeed (seedAt seed i)) value faces
  rw [runOn_evaluateAll_singleton, ← Batch.evaluateFresh, hfresh]
  rfl

/-- A die with any number of faces is thrown with the first number that is accepted, if the stream
has one at all, and comes to one of its faces. A generator that has served any throws finds that
number however far it is. For each face of a die there are as many numbers that are accepted and
have it: two to the power of the zeros in front of the highest bit of the number of faces. No
evaluation from a generator fails on a value that a die does not have, be it that of a term, of
seeded batches or of a formula in a session. -/
theorem throws_fair :
    (∀ faces : UInt64, faces ≠ 0 →
      (∀ (σ : Type) (next : σ → UInt64 × σ) (s : σ),
        (∃ i, Uniform.accepts faces (Uniform.number next s i) = true) →
        ∃ i, Uniform.FirstAccepted next faces s i ∧
          OnDie faces (Uniform.face faces (Uniform.number next s i)) ∧
          ∀ fuel, i ≤ fuel → Uniform.pick next faces fuel s =
            (Uniform.face faces (Uniform.number next s i), Uniform.after next s (i + 1))) ∧
      (∀ (start g : Generator) (xs : List Throw),
        start.ready = [] → Generator.source.Serves xs start g →
        (∃ i, Uniform.accepts faces (Uniform.number Generator.next g i) = true) →
        ∃ i, Uniform.FirstAccepted Generator.next faces g i ∧
          Generator.source.draw faces g =
            (Uniform.face faces (Uniform.number Generator.next g i),
              Uniform.after Generator.next g (i + 1))) ∧
      (halfWordCount ≤ faces.toNat * 2 ^ (Uniform.leadingZeros faces).toNat ∧
        faces.toNat * 2 ^ (Uniform.leadingZeros faces).toNat < wordCount) ∧
      ∀ value, OnDie faces value →
        {v | Uniform.accepts faces v = true ∧ Uniform.face faces v = value}.ncard =
          2 ^ (Uniform.leadingZeros faces).toNat) ∧
    ∀ value faces : UInt64,
      (∀ (t : Term) (g : Generator),
        ((t.evaluate Generator.source).runOn g).1 ≠ .error (.badDraw value faces)) ∧
      (∀ (bs : List Batch) (thresholds : Thresholds) (seed : UInt64),
        evaluateSeeded thresholds seed bs ≠ .error (.badDraw value faces)) ∧
      ∀ (r : Roller) (formula : String),
        (r.roll formula).1 ≠ .error (.evaluation (.badDraw value faces)) := by
  have hsource := Generator.honest_source
  constructor
  · intro faces h
    refine ⟨?_, ?_, Uniform.leadingZeros_bounds h, fun _ => Uniform.ncard_accepts_face h⟩
    · intro σ next s haccepted
      obtain ⟨i, hi⟩ := Uniform.exists_firstAccepted haccepted
      exact ⟨i, hi, Uniform.onDie_face h _, fun _ => hi.pick_eq⟩
    · intro start g xs hstart hserves haccepted
      obtain ⟨i, hi⟩ := Uniform.exists_firstAccepted haccepted
      exact ⟨i, hi, Generator.draw_eq hstart hserves hi⟩
  · intro value faces
    refine ⟨?_, ?_, ?_⟩
    · exact fun t g => hsource.evaluate_ne_badDraw t g value faces
    · exact fun bs thresholds seed => evaluateSeeded_ne_badDraw bs thresholds seed value faces
    · exact fun r formula => hsource.roll_ne_badDraw formula r.thresholds r.generator value faces

/-- Six faces: on a stream that begins with the largest number, and on that of a seed, the first
number is passed over and the second one gives a one. -/
theorem throws_fair_six :
    let stream : Nat → UInt64 × Nat := fun n =>
      (if n = 0 then 0xFFFFFFFFFFFFFFFF else UInt64.ofNat n, n + 1)
    Uniform.pick stream 6 100 0 = (1, 2) ∧ OnDie 6 1 ∧
      (Generator.source.draw 6 (Generator.ofSeed 9)).1 = 1 ∧
      {v | Uniform.accepts 6 v = true ∧ Uniform.face 6 v = 5}.ncard = 2 ^ 61 := by
  intro stream
  obtain ⟨hthrow, hdraw, -, hcount⟩ := throws_fair.1 6 (by decide)
  have hstream : Uniform.FirstAccepted stream 6 0 1 := ⟨by decide, by decide⟩
  have hseed : Uniform.FirstAccepted Generator.next 6 (Generator.ofSeed 9) 1 :=
    ⟨by decide +kernel, by decide +kernel⟩
  obtain ⟨i, hi, hon, hpick⟩ := hthrow Nat stream 0 ⟨1, hstream.accepted⟩
  obtain rfl := hi.unique hstream
  have hone : Uniform.face 6 (Uniform.number stream 0 1) = 1 := by decide
  rw [hone] at hon hpick
  obtain ⟨j, hj, hdrawn⟩ :=
    hdraw (Generator.ofSeed 9) (Generator.ofSeed 9) [] rfl rfl ⟨1, hseed.accepted⟩
  obtain rfl := hj.unique hseed
  refine ⟨hpick 100 (by decide), hon, ?_, hcount 5 (by decide)⟩
  rw [hdrawn]
  decide +kernel

end DiceNotation
