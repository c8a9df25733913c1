import DiceNotation.Proofs.Draws

/-! # Exploding dice

An exploding die draws a run of values: highest faces, and then one draw more,
which is another face or the one after the last allowed explosion. Throwing
exploding dice cuts the served values into complete runs, one for each die, and
succeeds as long as they fit the room. It fails on a value that the die does not
have, or by running out of room, one draw too late.
-/

namespace DiceNotation

/-- The draws of one exploding die: highest faces, at most `limit` of them unless that is 0, and a
last draw, which is another face or comes after `limit` explosions. -/
def IsRun (faces limit : UInt64) (vs : List UInt64) : Prop :=
  ∃ k v, vs = List.replicate k faces ++ [v] ∧ (limit = 0 ∨ k ≤ limit.toNat) ∧
    (v ≠ faces ∨ limit ≠ 0 ∧ k = limit.toNat)

namespace IsRun

variable {faces limit v : UInt64} {vs : List UInt64} {exploded : Nat}

theorem stop (hlimit : limit = 0 ∨ exploded ≤ limit.toNat)
    (h : ¬(v = faces ∧ (limit = 0 ∨ exploded < limit.toNat))) :
    IsRun faces limit (List.replicate exploded faces ++ [v]) := by
  refine ⟨exploded, v, rfl, hlimit, ?_⟩
  by_cases hv : v = faces
  · right
    obtain ⟨hzero, hmany⟩ := not_or.mp fun hmore => h ⟨hv, hmore⟩
    exact ⟨hzero, Nat.le_antisymm (hlimit.resolve_left hzero) (Nat.le_of_not_lt hmany)⟩
  · exact .inl hv

theorem of_stop (h : IsRun faces limit (List.replicate exploded faces ++ [v])) :
    ¬(v = faces ∧ (limit = 0 ∨ exploded < limit.toNat)) := by
  obtain ⟨k, w, heq, -, hend⟩ := h
  obtain ⟨hfaces, hlast⟩ := List.append_inj' heq rfl
  obtain rfl : exploded = k := by simpa using congrArg List.length hfaces
  obtain rfl := List.singleton_inj.mp hlast
  rintro ⟨rfl, hmore⟩
  rcases hend with hv | ⟨hzero, rfl⟩
  · exact hv rfl
  · rcases hmore with hmore | hmore
    · exact hzero hmore
    · omega

theorem explodes {w : UInt64}
    (h : IsRun faces limit (List.replicate exploded faces ++ v :: w :: vs)) :
    v = faces ∧ (limit = 0 ∨ exploded < limit.toNat) := by
  obtain ⟨k, u, heq, hlimit, -⟩ := h
  -- All draws but the last one are highest faces, and `v` is not the last.
  have hinit : List.replicate exploded faces ++ v :: (w :: vs).dropLast =
      List.replicate k faces := by
    have hdrop := congrArg List.dropLast heq
    rwa [List.dropLast_append_of_ne_nil (by simp), List.dropLast_concat] at hdrop
  have hlength := congrArg List.length hinit
  simp only [List.length_append, List.length_replicate, List.length_cons] at hlength
  refine ⟨?_, hlimit.imp_right fun hk => by omega⟩
  have hmem : v ∈ List.replicate k faces := by
    rw [← hinit]
    simp
  exact List.eq_of_mem_replicate hmem

end IsRun

/-- The draws of exploding dice that fail, with room for `room` of them: the last one is a value
that the die does not have, or it is one draw too many. -/
inductive Breaks (faces : UInt64) (room : Nat) : List UInt64 → EvaluationFault → Prop where
  | badDraw {vs : List UInt64} {v : UInt64} : (∀ w ∈ vs, OnDie faces w) → ¬ OnDie faces v →
      vs.length ≤ room → Breaks faces room (vs ++ [v]) (.badDraw v faces)
  | tooManyDraws {vs : List UInt64} : (∀ w ∈ vs, OnDie faces w) → vs.length = room + 1 →
      Breaks faces room vs .tooManyDraws

theorem Breaks.append {faces : UInt64} {vs ws : List UInt64} {room : Nat} {e : EvaluationFault}
    (h : Breaks faces room ws e) (hvs : ∀ v ∈ vs, OnDie faces v) :
    Breaks faces (vs.length + room) (vs ++ ws) e := by
  cases h with
  | @badDraw ws v hws hoff hlength =>
      rw [← List.append_assoc]
      refine .badDraw (List.forall_mem_append.mpr ⟨hvs, hws⟩) hoff ?_
      rw [List.length_append]
      omega
  | tooManyDraws hws hlength =>
      refine .tooManyDraws (List.forall_mem_append.mpr ⟨hvs, hws⟩) ?_
      rw [List.length_append]
      omega

namespace Source

variable {σ : Type} {src : Source σ} {faces limit : UInt64} {s s' : σ}

/-- What one draw of an exploding die comes to: another one is made, or the die is done. -/
theorem runOn_explodingDie_succ_eq_ok_iff {exploded room left : Nat} {os : List Outcome} :
    (src.explodingDie faces limit exploded (room + 1)).runOn s = (.ok (os, left), s') ↔
      ∃ v next, src.draw faces s = (v, next) ∧ OnDie faces v ∧
        if v = faces ∧ (limit = 0 ∨ exploded < limit.toNat) then
          ∃ later, (src.explodingDie faces limit (exploded + 1) room).runOn next =
            (.ok (later, left), s') ∧ os = .ofDraw v faces :: later
        else os = [.ofDraw v faces] ∧ left = room ∧ s' = next := by
  rw [explodingDie, Rolling.runOn_bind_eq_ok_iff]
  constructor
  · intro h
    obtain ⟨o, next, ho, hrest⟩ := h
    obtain ⟨v, hdraw, hon, rfl⟩ := runOn_die_eq_ok_iff.mp ho
    rw [Outcome.value_ofDraw] at hrest
    refine ⟨v, next, hdraw, hon, ?_⟩
    split
    · rw [if_pos ‹_›] at hrest
      obtain ⟨⟨later, left'⟩, last, hlater, hlast⟩ := Rolling.runOn_bind_eq_ok_iff.mp hrest
      cases hlast
      exact ⟨later, hlater, rfl⟩
    · rw [if_neg ‹_›] at hrest
      cases hrest
      exact ⟨rfl, rfl, rfl⟩
  · intro h
    obtain ⟨v, next, hdraw, hon, hrest⟩ := h
    refine ⟨.ofDraw v faces, next, runOn_die_eq_ok_iff.mpr ⟨v, hdraw, hon, rfl⟩, ?_⟩
    rw [Outcome.value_ofDraw]
    split at hrest
    · obtain ⟨later, hlater, rfl⟩ := hrest
      rw [if_pos ‹_›, Rolling.runOn_bind_ok hlater]
      rfl
    · obtain ⟨rfl, rfl, rfl⟩ := hrest
      rw [if_neg ‹_›]
      rfl

theorem runOn_explodingDie_eq_ok_iff {exploded room left : Nat} {os : List Outcome}
    (hlimit : limit = 0 ∨ exploded ≤ limit.toNat) :
    (src.explodingDie faces limit exploded room).runOn s = (.ok (os, left), s') ↔
      ∃ vs, vs ≠ [] ∧ IsRun faces limit (List.replicate exploded faces ++ vs) ∧
        (∀ v ∈ vs, OnDie faces v) ∧ vs.length + left = room ∧ src.Draws faces vs s s' ∧
        os = vs.map (.ofDraw · faces) := by
  induction room generalizing exploded s os with
  | zero =>
      constructor
      · intro h
        obtain ⟨o, next, -, hthrow⟩ := Rolling.runOn_bind_eq_ok_iff.mp h
        cases hthrow
      · intro h
        obtain ⟨vs, hne, -, -, hroom, -⟩ := h
        have hlength := List.length_pos_iff.mpr hne
        omega
  | succ room ih =>
      rw [runOn_explodingDie_succ_eq_ok_iff]
      constructor
      · intro h
        obtain ⟨v, next, hdraw, hon, hrest⟩ := h
        by_cases hmore : v = faces ∧ (limit = 0 ∨ exploded < limit.toNat)
        · rw [if_pos hmore] at hrest
          obtain ⟨later, hlater, rfl⟩ := hrest
          obtain ⟨vs, hne, hrun, hvs, hroom, hdraws, rfl⟩ :=
            (ih (hmore.2.imp_right Nat.succ_le_of_lt)).mp hlater
          obtain ⟨rfl, -⟩ := hmore
          refine ⟨v :: vs, by simp, ?_, List.forall_mem_cons.mpr ⟨hon, hvs⟩, ?_,
            ⟨next, hdraw, hdraws⟩, rfl⟩
          · rwa [List.replicate_succ', List.append_assoc] at hrun
          · simp only [List.length_cons]
            omega
        · rw [if_neg hmore] at hrest
          obtain ⟨rfl, rfl, rfl⟩ := hrest
          exact ⟨[v], by simp, IsRun.stop hlimit hmore, by simpa using hon, Nat.add_comm _ _,
            ⟨_, hdraw, rfl⟩, rfl⟩
      · intro h
        obtain ⟨vs, hne, hrun, hvs, hroom, hdraws, rfl⟩ := h
        cases vs with
        | nil => exact absurd rfl hne
        | cons v vs =>
            obtain ⟨hon, hvs⟩ := List.forall_mem_cons.mp hvs
            obtain ⟨next, hdraw, hdraws⟩ := hdraws
            refine ⟨v, next, hdraw, hon, ?_⟩
            cases vs with
            | nil =>
                rw [if_neg hrun.of_stop]
                exact ⟨rfl, by simpa [Nat.add_comm] using hroom, hdraws.symm⟩
            | cons w vs =>
                obtain ⟨rfl, hmore⟩ := hrun.explodes
                rw [if_pos ⟨rfl, hmore⟩]
                have hlater := (ih (s := next) (hmore.imp_right Nat.succ_le_of_lt)).mpr
                  ⟨w :: vs, by simp, ?_, hvs, ?_, hdraws, rfl⟩
                · exact ⟨_, hlater, rfl⟩
                · rwa [List.replicate_succ', List.append_assoc]
                · simp only [List.length_cons] at hroom ⊢
                  omega

/-- Several exploding dice succeed with one complete run each, if the room holds them all. -/
theorem runOn_explodingDice_eq_ok_iff {count room : Nat} {os : List Outcome} :
    (src.explodingDice faces limit count room).runOn s = (.ok os, s') ↔
      ∃ runs : List (List UInt64), runs.length = count ∧ (∀ run ∈ runs, IsRun faces limit run) ∧
        (∀ v ∈ runs.flatten, OnDie faces v) ∧ runs.flatten.length ≤ room ∧
        src.Draws faces runs.flatten s s' ∧ os = runs.flatten.map (.ofDraw · faces) := by
  induction count generalizing room s os with
  | zero =>
      constructor
      · intro h
        cases h
        exact ⟨[], rfl, by simp, by simp, by simp, rfl, rfl⟩
      · intro h
        obtain ⟨runs, hlength, -, -, -, hdraws, rfl⟩ := h
        obtain rfl := List.length_eq_zero_iff.mp hlength
        cases hdraws
        rfl
  | succ count ih =>
      rw [explodingDice, Rolling.runOn_bind_eq_ok_iff]
      constructor
      · intro h
        obtain ⟨⟨os', left⟩, next, hdie, hrest⟩ := h
        obtain ⟨run, hne, hrun, hvs, hroom, hdraws, rfl⟩ :=
          (runOn_explodingDie_eq_ok_iff (.inr (Nat.zero_le _))).mp hdie
        obtain ⟨os'', last, hos, hlast⟩ := Rolling.runOn_bind_eq_ok_iff.mp hrest
        cases hlast
        obtain ⟨runs, rfl, hruns, hvs', hroom', hdraws', rfl⟩ := ih.mp hos
        refine ⟨run :: runs, rfl, List.forall_mem_cons.mpr ⟨hrun, hruns⟩, ?_, ?_,
          draws_append.mpr ⟨next, hdraws, hdraws'⟩, by simp⟩
        · intro v hv
          exact (List.mem_append.mp hv).elim (hvs v) (hvs' v)
        · simp only [List.flatten_cons, List.length_append]
          omega
      · intro h
        obtain ⟨runs, hlength, hruns, hvs, hroom, hdraws, rfl⟩ := h
        cases runs with
        | nil => cases hlength
        | cons run runs =>
            obtain ⟨hrun, hruns⟩ := List.forall_mem_cons.mp hruns
            obtain ⟨next, hdraws, hdraws'⟩ := draws_append.mp hdraws
            rw [List.flatten_cons, List.length_append] at hroom
            have hne : run ≠ [] := by
              obtain ⟨k, v, rfl, -⟩ := hrun
              simp
            have hdie := (runOn_explodingDie_eq_ok_iff (.inr (Nat.zero_le _))).mpr
              ⟨run, hne, hrun, fun v hv => hvs v (List.mem_append_left _ hv),
                Nat.add_sub_of_le (Nat.le_trans (Nat.le_add_right _ _) hroom), hdraws, rfl⟩
            have hdice := ih.mpr ⟨runs, Nat.succ.inj hlength, hruns,
              fun v hv => hvs v (List.mem_append_right _ hv), Nat.le_sub_of_add_le' hroom,
              hdraws', rfl⟩
            refine ⟨_, next, hdie, ?_⟩
            rw [Rolling.runOn_bind_ok hdice, List.flatten_cons, List.map_append]
            rfl

/-- From this state on the source serves no value that the die does not have. -/
def KeepsTo (src : Source σ) (faces : UInt64) (s : σ) : Prop :=
  ∀ vs s', src.Draws faces vs s s' → ∀ v ∈ vs, OnDie faces v

theorem keepsTo_of_forall (h : ∀ s, OnDie faces (src.draw faces s).1) (s : σ) :
    src.KeepsTo faces s := by
  intro vs
  induction vs generalizing s with
  | nil => simp
  | cons v vs ih =>
      rintro s' ⟨next, hdraw, hdraws⟩
      refine List.forall_mem_cons.mpr ⟨?_, ih next s' hdraws⟩
      simpa [hdraw] using h s

theorem breaks_of_die_error {room : Nat} {e : EvaluationFault}
    (h : (src.die faces).runOn s = (.error e, s')) :
    ∃ vs, Breaks faces room vs e ∧ src.Draws faces vs s s' := by
  obtain ⟨v, hdraw, hoff, rfl⟩ := runOn_die_eq_error_iff.mp h
  exact ⟨[] ++ [v], .badDraw (by simp) hoff (Nat.zero_le room), s', hdraw, rfl⟩

theorem breaks_of_explodingDie_error {exploded room : Nat} {e : EvaluationFault}
    (h : (src.explodingDie faces limit exploded room).runOn s = (.error e, s')) :
    ∃ vs, Breaks faces room vs e ∧ src.Draws faces vs s s' := by
  induction room generalizing exploded s with
  | zero =>
      rw [explodingDie] at h
      rcases Rolling.runOn_bind_eq_error_iff.mp h with hdie | ⟨o, next, ho, hthrow⟩
      · exact breaks_of_die_error hdie
      · obtain ⟨v, hdraw, hon, rfl⟩ := runOn_die_eq_ok_iff.mp ho
        cases hthrow
        exact ⟨[v], .tooManyDraws (by simpa using hon) rfl, ⟨s', hdraw, rfl⟩⟩
  | succ room ih =>
      rw [explodingDie] at h
      rcases Rolling.runOn_bind_eq_error_iff.mp h with hdie | ⟨o, next, ho, hrest⟩
      · exact breaks_of_die_error hdie
      · obtain ⟨v, hdraw, hon, rfl⟩ := runOn_die_eq_ok_iff.mp ho
        split at hrest
        · rcases Rolling.runOn_bind_eq_error_iff.mp hrest with hlater | ⟨_, _, -, hpure⟩
          · obtain ⟨vs, hvs, hdraws⟩ := ih hlater
            have hall : Breaks faces ([v].length + room) ([v] ++ vs) e :=
              hvs.append (by simpa using hon)
            rw [List.length_singleton, Nat.add_comm] at hall
            exact ⟨v :: vs, hall, next, hdraw, hdraws⟩
          · cases hpure
        · cases hrest

theorem breaks_of_explodingDice_error {count room : Nat} {e : EvaluationFault}
    (h : (src.explodingDice faces limit count room).runOn s = (.error e, s')) :
    ∃ vs, Breaks faces room vs e ∧ src.Draws faces vs s s' := by
  induction count generalizing room s with
  | zero => cases h
  | succ count ih =>
      rw [explodingDice] at h
      rcases Rolling.runOn_bind_eq_error_iff.mp h with hdie | ⟨⟨os, left⟩, next, hos, hrest⟩
      · exact breaks_of_explodingDie_error hdie
      · obtain ⟨run, -, -, hrun, rfl, hdraws, -⟩ :=
          (runOn_explodingDie_eq_ok_iff (.inr (Nat.zero_le _))).mp hos
        rcases Rolling.runOn_bind_eq_error_iff.mp hrest with hlater | ⟨_, _, -, hpure⟩
        · obtain ⟨vs, hvs, hdraws'⟩ := ih hlater
          exact ⟨run ++ vs, hvs.append hrun, draws_append.mpr ⟨next, hdraws, hdraws'⟩⟩
        · cases hpure

/-- Where the source keeps to the die, exploding dice that do not succeed have run out of room, one
draw too late. -/
theorem runOn_explodingDice_total (limit : UInt64) (count room : Nat)
    (h : src.KeepsTo faces s) :
    (∃ os s', (src.explodingDice faces limit count room).runOn s = (.ok os, s')) ∨
      ∃ vs s', vs.length = room + 1 ∧ src.Draws faces vs s s' ∧
        (src.explodingDice faces limit count room).runOn s = (.error .tooManyDraws, s') := by
  cases hrun : (src.explodingDice faces limit count room).runOn s with
  | mk outcome s' =>
      cases outcome with
      | ok os => exact .inl ⟨os, s', rfl⟩
      | error e =>
          obtain ⟨vs, hvs, hdraws⟩ := breaks_of_explodingDice_error hrun
          cases hvs with
          | badDraw _ hoff _ => exact absurd (h _ _ hdraws _ (by simp)) hoff
          | tooManyDraws _ hlength => exact .inr ⟨vs, s', hlength, hdraws, rfl⟩

/-- The source that shows the highest face of any die and counts its draws. -/
def steady : Source Nat where
  draw faces n := (faces, n + 1)

theorem serves_steady_iff {xs : List Throw} {n n' : Nat} :
    steady.Serves xs n n' ↔ (∀ x ∈ xs, x.value = x.faces) ∧ n' = n + xs.length := by
  induction xs generalizing n with
  | nil => simp [eq_comm]
  | cons x xs ih =>
      have hdraw (next : Nat) : steady.draw x.faces n = (x.value, next) ↔
          x.value = x.faces ∧ next = n + 1 := by
        simp [steady, Prod.ext_iff, eq_comm]
      simp only [Serves, hdraw, ih, List.forall_mem_cons, List.length_cons]
      constructor
      · rintro ⟨_, ⟨hx, rfl⟩, hxs, rfl⟩
        exact ⟨⟨hx, hxs⟩, by omega⟩
      · rintro ⟨⟨hx, hxs⟩, rfl⟩
        exact ⟨n + 1, ⟨hx, rfl⟩, hxs, by omega⟩

theorem draws_steady_iff {vs : List UInt64} {n n' : Nat} :
    steady.Draws faces vs n n' ↔ (∀ v ∈ vs, v = faces) ∧ n' = n + vs.length := by
  simp [Draws, serves_steady_iff]

theorem keepsTo_steady (hfaces : 1 ≤ faces) (n : Nat) : steady.KeepsTo faces n :=
  keepsTo_of_forall (fun _ => ⟨hfaces, UInt64.le_refl faces⟩) n

theorem not_isRun_of_draws_steady {vs : List UInt64} {n n' : Nat}
    (h : steady.Draws faces vs n n') : ¬ IsRun faces 0 vs := by
  rintro ⟨k, v, rfl, -, hend⟩
  rcases hend with hv | ⟨hzero, -⟩
  · exact hv ((draws_steady_iff.mp h).1 v (by simp))
  · exact hzero rfl

end Source

end DiceNotation
