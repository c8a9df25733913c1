import DiceNotation.Proofs.Refusals
import DiceNotation.Proofs.Spending
import DiceNotation.Proofs.Terms

/-! # Courses

What evaluating a term can come to, on any source whatever: the throws it makes,
and its outcome. A constant makes none, and a refused roll makes none; all other
dice throw until they are complete, until the source returns a value that they do
not have, or until an explosion runs out of room. No evaluation takes another
course, so its throws are bounded and a failure tells how it came about.
-/

namespace DiceNotation

def DiceRoll.Explodes (d : DiceRoll) : Prop := ∃ limit, d.modifier = some (.explode limit)

namespace Term

/-- The throws that evaluating a term makes, and its outcome. -/
inductive Course : Term → List Throw → Except EvaluationFault TermResult → Prop where
  | amount {c : Constant} {total : Int64} : c.amount? = some total →
      Course (.constant c) [] (.ok ⟨.constant c, none, none, total⟩)
  | tooLarge {c : Constant} : c.amount? = none →
      Course (.constant c) [] (.error .constantTooLarge)
  | refused {d : DiceRoll} {e : EvaluationFault} : d.fault? = some e →
      Course (.dice d) [] (.error e)
  | complete {d : DiceRoll} {vs : List UInt64} : d.fault? = none → d.Completes vs →
      Course (.dice d) (vs.map (Throw.mk d.faces)) (.ok (d.result vs))
  | badDraw {d : DiceRoll} {vs : List UInt64} {v : UInt64} : d.fault? = none →
      (∀ w ∈ vs, OnDie d.faces w) → ¬ OnDie d.faces v → vs.length ≤ maxDice →
      (¬ d.Explodes → vs.length < d.count.toNat) →
      Course (.dice d) ((vs ++ [v]).map (Throw.mk d.faces)) (.error (.badDraw v d.faces))
  | tooManyDraws {d : DiceRoll} {vs : List UInt64} : d.fault? = none → d.Explodes →
      (∀ w ∈ vs, OnDie d.faces w) → vs.length = maxDice + 1 →
      Course (.dice d) (vs.map (Throw.mk d.faces)) (.error .tooManyDraws)

/-- The throws that evaluating the term makes from a state of the source. -/
def thrown {σ : Type} (t : Term) (src : Source σ) (s : σ) : List Throw :=
  ((t.evaluate src.recorded).runOn (s, [])).2.2

end Term

section

variable {σ : Type} {src : Source σ} {s s' : σ}

theorem DiceRoll.course_of_draw_error {d : DiceRoll} {e : EvaluationFault}
    (hfault : d.fault? = none) (h : (d.draw src).runOn s = (.error e, s')) :
    ∃ vs, Term.Course (.dice d) (vs.map (Throw.mk d.faces)) (.error e) ∧
      src.Draws d.faces vs s s' := by
  by_cases hm : d.Explodes
  · obtain ⟨limit, hlimit⟩ := id hm
    rw [draw_exploding hlimit] at h
    obtain ⟨vs, hvs, hdraws⟩ := Source.breaks_of_explodingDice_error h
    refine ⟨vs, ?_, hdraws⟩
    cases hvs with
    | badDraw hon hoff hroom => exact .badDraw hfault hon hoff hroom (absurd hm)
    | tooManyDraws hon hlength => exact .tooManyDraws hfault hm hon hlength
  · rw [draw_counted (not_exists.mp hm)] at h
    obtain ⟨vs, v, hon, hoff, hlength, hdraws, rfl⟩ := Source.draws_of_dice_error h
    obtain ⟨⟨-, hcount⟩, -⟩ := bounds_of_fault? hfault
    exact ⟨vs ++ [v], .badDraw hfault hon hoff
      (Nat.le_of_lt (Nat.lt_of_lt_of_le hlength hcount)) fun _ => hlength, hdraws⟩

theorem DiceRoll.exists_course (d : DiceRoll) (src : Source σ) (s : σ) :
    ∃ xs, Term.Course (.dice d) xs ((d.evaluate src).runOn s).1 ∧
      src.Serves xs s ((d.evaluate src).runOn s).2 := by
  cases hfault : d.fault? with
  | some e =>
      rw [runOn_evaluate_of_fault? hfault]
      exact ⟨[], .refused hfault, rfl⟩
  | none =>
      cases hdraw : (d.draw src).runOn s with
      | mk outcome s' =>
          cases outcome with
          | ok os =>
              obtain ⟨vs, hvs, hdraws, rfl⟩ := runOn_draw_eq_ok_iff.mp hdraw
              rw [runOn_evaluate_of_draw hfault hvs hdraw]
              exact ⟨_, .complete hfault hvs, hdraws⟩
          | error e =>
              obtain ⟨vs, hcourse, hdraws⟩ := course_of_draw_error hfault hdraw
              rw [runOn_evaluate_of_draw_error hfault hdraw]
              exact ⟨_, hcourse, hdraws⟩

namespace Term

theorem exists_course (t : Term) (src : Source σ) (s : σ) :
    ∃ xs, t.Course xs ((t.evaluate src).runOn s).1 ∧
      src.Serves xs s ((t.evaluate src).runOn s).2 := by
  cases t with
  | dice d => exact d.exists_course src s
  | constant c =>
      cases hamount : c.amount? with
      | some total =>
          simp only [evaluate, hamount]
          exact ⟨[], .amount hamount, rfl⟩
      | none =>
          simp only [evaluate, hamount]
          exact ⟨[], .tooLarge hamount, rfl⟩

theorem runOn_recorded_append (t : Term) (src : Source σ) (s : σ) (log : List Throw) :
    (t.evaluate src.recorded).runOn (s, log) =
      (((t.evaluate src).runOn s).1, ((t.evaluate src).runOn s).2, log ++ t.thrown src s) := by
  have hnotes : src.Notes id (t.evaluate src) (t.evaluate src.recorded) := t.notes_evaluate
  obtain ⟨xs, -, hrun⟩ := hnotes s
  rw [thrown, hrun, hrun, List.nil_append]

theorem runOn_recorded (t : Term) (src : Source σ) (s : σ) :
    (t.evaluate src.recorded).runOn (s, []) =
      (((t.evaluate src).runOn s).1, ((t.evaluate src).runOn s).2, t.thrown src s) :=
  t.runOn_recorded_append src s []

theorem thrown_dice {d : DiceRoll} {vs : List UInt64} (hfault : d.fault? = none)
    (hvs : d.Completes vs) (hdraws : src.Draws d.faces vs s s') :
    (Term.dice d).thrown src s = vs.map (Throw.mk d.faces) := by
  have hrun : (d.evaluate src.recorded).runOn (s, []) =
      (.ok (d.result vs), s', vs.map (Throw.mk d.faces)) :=
    DiceRoll.runOn_evaluate_eq_ok_iff.mpr
      ⟨hfault, vs, hvs, Source.serves_recorded.mpr ⟨hdraws, rfl⟩, rfl⟩
  rw [thrown, evaluate, hrun]

theorem course_thrown (t : Term) (src : Source σ) (s : σ) :
    t.Course (t.thrown src s) ((t.evaluate src).runOn s).1 ∧
      src.Serves (t.thrown src s) s ((t.evaluate src).runOn s).2 := by
  obtain ⟨xs, hcourse, hserves⟩ := t.exists_course src.recorded (s, [])
  rw [runOn_recorded] at hcourse hserves
  obtain ⟨hserves, rfl⟩ := Source.serves_recorded.mp hserves
  exact ⟨hcourse, hserves⟩

def Explodes (t : Term) : Prop := ∃ d, t = .dice d ∧ d.Explodes

/-- How many dice the term is about; a constant is about none. -/
def count : Term → Nat
  | .dice d => d.count.toNat
  | .constant _ => 0

namespace Course

variable {t : Term} {xs : List Throw} {outcome : Except EvaluationFault TermResult}

theorem onDie_of_mem_throws {faces : UInt64} {vs : List UInt64} (hvs : ∀ v ∈ vs, OnDie faces v) :
    ∀ x ∈ vs.map (Throw.mk faces), OnDie x.faces x.value := by
  intro x hx
  obtain ⟨v, hv, rfl⟩ := List.mem_map.mp hx
  exact hvs v hv

theorem length_le (h : t.Course xs outcome) : xs.length ≤ maxDice + 1 := by
  cases h with
  | amount | tooLarge | refused => exact Nat.zero_le _
  | complete hfault hvs =>
      rw [List.length_map]
      exact Nat.le_succ_of_le (hvs.length_le hfault)
  | badDraw _ _ _ hroom _ =>
      rw [List.length_map, List.length_append]
      exact Nat.succ_le_succ hroom
  | tooManyDraws _ _ _ hlength =>
      rw [List.length_map]
      exact Nat.le_of_eq hlength

theorem length_eq_count {r : TermResult} (h : t.Course xs (.ok r)) (ht : ¬ t.Explodes) :
    xs.length = t.count := by
  cases h with
  | amount => rfl
  | @complete d vs _ hvs =>
      have hd : ¬ d.Explodes := fun hd => ht ⟨d, rfl, hd⟩
      rw [List.length_map]
      exact ((DiceRoll.completes_counted (not_exists.mp hd)).mp hvs).2

theorem length_le_count (h : t.Course xs outcome) (ht : ¬ t.Explodes) : xs.length ≤ t.count := by
  cases h with
  | amount | tooLarge | refused => exact Nat.zero_le _
  | complete hfault hvs => exact Nat.le_of_eq ((complete hfault hvs).length_eq_count ht)
  | @badDraw d vs v _ _ _ _ hcount =>
      rw [List.length_map, List.length_append]
      exact hcount fun hd => ht ⟨d, rfl, hd⟩
  | @tooManyDraws d _ _ hd _ _ => exact absurd ⟨d, rfl, hd⟩ ht

theorem throws_eq (h : t.Course xs outcome) :
    xs = [] ∨ ∃ d, ∃ vs : List UInt64, t = .dice d ∧ d.fault? = none ∧
      xs = vs.map (Throw.mk d.faces) := by
  cases h with
  | amount | tooLarge | refused => exact .inl rfl
  | complete hfault _ | badDraw hfault _ _ _ _ | tooManyDraws hfault _ _ _ =>
      exact .inr ⟨_, _, rfl, hfault, rfl⟩

theorem faces_eq (h : t.Course xs outcome) {x : Throw} (hx : x ∈ xs) :
    ∃ d, t = .dice d ∧ x.faces = d.faces ∧ 1 ≤ d.faces.toNat ∧ d.faces.toNat ≤ maxFaces := by
  rcases h.throws_eq with rfl | ⟨d, vs, rfl, hfault, rfl⟩
  · cases hx
  · obtain ⟨v, -, rfl⟩ := List.mem_map.mp hx
    exact ⟨d, rfl, rfl, (DiceRoll.bounds_of_fault? hfault).2⟩

theorem onDie_of_keepsTo (h : t.Course xs outcome) (hserves : src.Serves xs s s')
    (hsource : ∀ d, t = .dice d → d.faces ≠ 0 → src.KeepsTo d.faces s) :
    ∀ x ∈ xs, OnDie x.faces x.value := by
  rcases h.throws_eq with rfl | ⟨d, vs, rfl, hfault, rfl⟩
  · simp
  · have hfaces : d.faces ≠ 0 := by
      intro hzero
      have hone := (DiceRoll.bounds_of_fault? hfault).2.1
      rw [hzero] at hone
      exact absurd hone (by decide)
    exact onDie_of_mem_throws (hsource d rfl hfaces vs s' hserves)

theorem last_of_not_onDie (h : t.Course xs outcome) {i : Nat} {x : Throw} (hi : xs[i]? = some x)
    (hx : ¬ OnDie x.faces x.value) :
    xs.length = i + 1 ∧ outcome = .error (.badDraw x.value x.faces) := by
  cases h with
  | amount | tooLarge | refused => cases hi
  | complete _ hvs => exact absurd (onDie_of_mem_throws hvs.1 x (List.mem_of_getElem? hi)) hx
  | tooManyDraws _ _ hon _ => exact absurd (onDie_of_mem_throws hon x (List.mem_of_getElem? hi)) hx
  | @badDraw d vs v _ hon _ _ _ =>
      rw [List.map_append] at hi
      rcases Nat.lt_or_ge i (vs.map (Throw.mk d.faces)).length with hlt | hge
      · rw [List.getElem?_append_left hlt] at hi
        exact absurd (onDie_of_mem_throws hon x (List.mem_of_getElem? hi)) hx
      · rw [List.getElem?_append_right hge, List.map_singleton, List.getElem?_singleton] at hi
        split at hi
        · cases hi
          rw [List.length_map] at hge
          refine ⟨?_, rfl⟩
          simp only [List.length_map, List.length_append, List.length_singleton] at *
          omega
        · cases hi

theorem values_eq {r : TermResult} (h : t.Course xs (.ok r)) :
    (r.rolls.getD []).map Outcome.value = xs.map Throw.value ∧
      ∀ x ∈ xs, OnDie x.faces x.value := by
  cases h with
  | amount => exact ⟨rfl, by simp⟩
  | complete _ hvs =>
      exact ⟨by simp [DiceRoll.result, Function.comp_def], onDie_of_mem_throws hvs.1⟩

theorem error_nil_iff (h : t.Course xs outcome) {e : EvaluationFault} :
    outcome = .error e ∧ xs = [] ↔ t.FirstObjection e := by
  cases h with
  | amount hamount => simp [firstObjection_constant, hamount]
  | tooLarge hamount => simp [firstObjection_constant, hamount, eq_comm]
  | refused hfault => simp [firstObjection_dice, hfault]
  | complete hfault _ => simp [firstObjection_dice, hfault]
  | badDraw hfault _ _ _ _ => simp [firstObjection_dice, hfault]
  | tooManyDraws hfault _ _ hlength =>
      have hne := List.ne_nil_of_length_eq_add_one hlength
      simp [firstObjection_dice, hfault, hne]

theorem ok_or_tooManyDraws (h : t.Course xs outcome) (hxs : ∀ x ∈ xs, OnDie x.faces x.value)
    (hrefused : ¬ t.Refused) : (∃ r, outcome = .ok r) ∨ outcome = .error .tooManyDraws := by
  rw [refused_iff, not_exists] at hrefused
  cases h with
  | amount | complete => exact .inl ⟨_, rfl⟩
  | tooLarge hamount => exact absurd (firstObjection_constant.mpr ⟨hamount, rfl⟩) (hrefused _)
  | refused hfault => exact absurd (firstObjection_dice.mpr hfault) (hrefused _)
  | @badDraw d vs v _ _ hoff _ _ => exact absurd (hxs ⟨d.faces, v⟩ (by simp)) hoff
  | tooManyDraws => exact .inr rfl

theorem exists_ok (h : t.Course xs outcome) (hxs : ∀ x ∈ xs, OnDie x.faces x.value)
    (hrefused : ¬ t.Refused) (ht : ¬ t.Explodes) :
    (∃ r, outcome = .ok r) ∧ xs.length = t.count := by
  rcases h.ok_or_tooManyDraws hxs hrefused with ⟨r, rfl⟩ | rfl
  · exact ⟨⟨r, rfl⟩, h.length_eq_count ht⟩
  · cases h with
    | refused hfault => exact absurd (DiceRoll.refused_iff.mpr (by simp [hfault])) hrefused
    | tooManyDraws _ hd _ _ => exact absurd ⟨_, rfl, hd⟩ ht

end Course

end Term

end

/-- Whatever a source returns, evaluating a term makes at most one throw more than dice may be
thrown, and without an explosion at most one for each of its dice. All of them are of the term's own
dice, whose faces are in range. A value that the dice do not have is the last one and is reported; a
success has recorded all values, and the dice have them. -/
theorem evaluate_throws_bounded {σ : Type} (src : Source σ) (s : σ) (t : Term) :
    src.Serves (t.thrown src s) s ((t.evaluate src).runOn s).2 ∧
      (t.thrown src s).length ≤ maxDice + 1 ∧
      (¬ t.Explodes → (t.thrown src s).length ≤ t.count) ∧
      (∀ x ∈ t.thrown src s, ∃ d, t = .dice d ∧ x.faces = d.faces ∧
        1 ≤ d.faces.toNat ∧ d.faces.toNat ≤ maxFaces) ∧
      (∀ i x, (t.thrown src s)[i]? = some x → ¬ OnDie x.faces x.value →
        (t.thrown src s).length = i + 1 ∧
          ((t.evaluate src).runOn s).1 = .error (.badDraw x.value x.faces)) ∧
      ∀ r, ((t.evaluate src).runOn s).1 = .ok r →
        (r.rolls.getD []).map Outcome.value = (t.thrown src s).map Throw.value ∧
          ∀ x ∈ t.thrown src s, OnDie x.faces x.value := by
  obtain ⟨hcourse, hserves⟩ := t.course_thrown src s
  refine ⟨hserves, hcourse.length_le, hcourse.length_le_count, fun x hx => hcourse.faces_eq hx,
    fun i x hi hx => hcourse.last_of_not_onDie hi hx, ?_⟩
  intro r hr
  rw [hr] at hcourse
  exact hcourse.values_eq

/-- A six that explodes without end is thrown once more than there may be dice. -/
theorem evaluate_throws_bounded_endless :
    let d : DiceRoll := ⟨"d6!", false, 1, 6, some (.explode 0)⟩
    (((Term.dice d).evaluate Source.steady).runOn 0).1 = .error .tooManyDraws ∧
      ((Term.dice d).thrown Source.steady 0).length = 5001 := by
  intro d
  have hthrown (t : Term) {outcome : Except EvaluationFault TermResult} {n : Nat}
      (hrun : (t.evaluate Source.steady).runOn 0 = (outcome, n)) :
      (t.thrown Source.steady 0).length = n := by
    have hserves := (evaluate_throws_bounded Source.steady 0 t).1
    rw [hrun, Source.serves_steady_iff, Nat.zero_add] at hserves
    exact hserves.2.symm
  have hkeeps : Source.steady.KeepsTo d.faces 0 := Source.keepsTo_steady (by decide) 0
  have hnone : ¬∃ runs n, Source.steady.CompletesRuns d.faces 0 d.count.toNat 0 runs n :=
    fun ⟨_, _, hruns⟩ => Source.not_completesRuns_steady hruns
  obtain ⟨vs, n, hlength, hdraws, hrun⟩ := runOn_evaluate_incomplete rfl (by decide) hkeeps hnone
  obtain ⟨-, rfl⟩ := Source.draws_steady_iff.mp hdraws
  rw [hlength] at hrun
  exact ⟨congrArg Prod.fst hrun, hthrown (.dice d) hrun⟩

/-- On a source that keeps to the dice, a term fails before the first throw exactly when it is
refused, and then with the first objection to it. If it is not refused, it succeeds with as many
throws as it has dice, unless it explodes: then it can only fail by running out of room. -/
theorem evaluate_refused_iff {σ : Type} (src : Source σ) (s : σ) (t : Term)
    (hsource : ∀ d, t = .dice d → d.faces ≠ 0 → src.KeepsTo d.faces s) :
    ((∃ e, ((t.evaluate src).runOn s).1 = .error e) ∧ t.thrown src s = [] ↔ t.Refused) ∧
      (∀ e, ((t.evaluate src).runOn s).1 = .error e ∧ t.thrown src s = [] ↔
        t.FirstObjection e) ∧
      (¬ t.Refused → ¬ t.Explodes →
        (∃ r, ((t.evaluate src).runOn s).1 = .ok r) ∧ (t.thrown src s).length = t.count) ∧
      (¬ t.Refused → t.Explodes →
        (∃ r, ((t.evaluate src).runOn s).1 = .ok r) ∨
          ((t.evaluate src).runOn s).1 = .error .tooManyDraws) := by
  obtain ⟨hcourse, hserves⟩ := t.course_thrown src s
  have hon := hcourse.onDie_of_keepsTo hserves hsource
  refine ⟨?_, fun e => hcourse.error_nil_iff, hcourse.exists_ok hon,
    fun hrefused _ => hcourse.ok_or_tooManyDraws hon hrefused⟩
  rw [Term.refused_iff, ← exists_and_right]
  exact exists_congr fun e => hcourse.error_nil_iff

/-- Three checks object to no dice of too many faces, and the one for their number comes first. The
lowest two of three dice are counted after three throws. -/
theorem evaluate_refused_iff_noDice :
    let src : Source Nat := ⟨fun faces n => (faces, n + 1), fun _ _ => true⟩
    let none : Term := .dice ⟨"0d5001kl0", false, 0, 5001, some (.keepLow 0)⟩
    let three : Term := .dice ⟨"3d6kl2", false, 3, 6, some (.keepLow 2)⟩
    (((none.evaluate src).runOn 0).1 = .error .noDice ∧ none.thrown src 0 = []) ∧
      (∃ r, ((three.evaluate src).runOn 0).1 = .ok r) ∧ (three.thrown src 0).length = 3 := by
  intro src none three
  have hsource (t : Term) : ∀ d, t = .dice d → d.faces ≠ 0 → src.KeepsTo d.faces 0 := by
    intro d _ hfaces
    apply Source.keepsTo_of_forall
    intro n
    exact Source.onDie_iff.mpr (by simp [src, hfaces])
  constructor
  · exact ((evaluate_refused_iff src 0 none (hsource none)).2.1 .noDice).mpr
      (DiceRoll.fault?_eq_some_iff.mp (by decide))
  · refine (evaluate_refused_iff src 0 three (hsource three)).2.2.1
      (DiceRoll.fault?_eq_none_iff.mp (by decide)) ?_
    rintro ⟨_, hthree, limit, hexplode⟩
    obtain rfl := Term.dice.inj hthree
    cases hexplode

end DiceNotation
