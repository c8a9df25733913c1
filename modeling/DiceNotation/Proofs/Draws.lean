import DiceNotation.Evaluation

/-! # Draws

What a source serves, as a relation between a sequence of throws and the states
before and after it. A computation that succeeds is described by the throws it
made, not by the source that served them: any other source that serves the same
throws leads to the same result. The log of a source and a script of its values
are two such sources.
-/

namespace DiceNotation

structure Throw where
  faces : UInt64
  value : UInt64
  deriving Repr, DecidableEq

def OnDie (faces value : UInt64) : Prop := 1 ≤ value ∧ value ≤ faces

instance (faces value : UInt64) : Decidable (OnDie faces value) :=
  inferInstanceAs (Decidable (_ ∧ _))

namespace Source

variable {σ : Type} {src : Source σ}

/-- Asked for the dice of these throws in turn, the source serves their values and goes from `s` to
`s'`. -/
def Serves (src : Source σ) : List Throw → σ → σ → Prop
  | [], s, s' => s = s'
  | x :: xs, s, s' => ∃ next, src.draw x.faces s = (x.value, next) ∧ src.Serves xs next s'

/-- Throwing one die again and again, the source serves these values. -/
def Draws (src : Source σ) (faces : UInt64) (values : List UInt64) (s s' : σ) : Prop :=
  src.Serves (values.map (Throw.mk faces)) s s'

/-- The source that also logs the values it has served. -/
def logged (src : Source σ) : Source (σ × List UInt64) where
  draw faces state :=
    let (value, next) := src.draw faces state.1
    (value, next, state.2 ++ [value])
  offers faces state := src.offers faces state.1

/-- The source that also notes something about each throw. -/
def noting {α : Type} (src : Source σ) (note : Throw → α) : Source (σ × List α) where
  draw faces state :=
    let (value, next) := src.draw faces state.1
    (value, next, state.2 ++ [note ⟨faces, value⟩])
  offers faces state := src.offers faces state.1

/-- The source that also keeps a record of the throws it has served. -/
def recorded (src : Source σ) : Source (σ × List Throw) := src.noting id

theorem logged_eq_noting : src.logged = src.noting Throw.value := rfl

@[simp] theorem serves_nil {s s' : σ} : src.Serves [] s s' ↔ s = s' := Iff.rfl

theorem serves_append {xs ys : List Throw} {s s' : σ} :
    src.Serves (xs ++ ys) s s' ↔ ∃ next, src.Serves xs s next ∧ src.Serves ys next s' := by
  induction xs generalizing s with
  | nil => simp
  | cons x xs ih =>
      constructor
      · intro h
        obtain ⟨next, hdraw, hserves⟩ := h
        obtain ⟨mid, hxs, hys⟩ := ih.mp hserves
        exact ⟨mid, ⟨next, hdraw, hxs⟩, hys⟩
      · intro h
        obtain ⟨mid, ⟨next, hdraw, hxs⟩, hys⟩ := h
        exact ⟨next, hdraw, ih.mpr ⟨mid, hxs, hys⟩⟩

theorem draws_append {faces : UInt64} {vs ws : List UInt64} {s s' : σ} :
    src.Draws faces (vs ++ ws) s s' ↔
      ∃ next, src.Draws faces vs s next ∧ src.Draws faces ws next s' := by
  rw [Draws, List.map_append, serves_append]
  rfl

/-- Noting the throws does not change what is served. -/
theorem serves_noting {α : Type} {note : Throw → α} {xs : List Throw} {s s' : σ}
    {log log' : List α} :
    (src.noting note).Serves xs (s, log) (s', log') ↔
      src.Serves xs s s' ∧ log' = log ++ xs.map note := by
  induction xs generalizing s log with
  | nil => simp [Prod.ext_iff, eq_comm]
  | cons x xs ih =>
      constructor
      · rintro ⟨⟨next, noted⟩, hdraw, hserves⟩
        obtain ⟨hrest, rfl⟩ := ih.mp hserves
        cases hfirst : src.draw x.faces s with
        | mk value state =>
            simp only [noting, hfirst, Prod.mk.injEq] at hdraw
            obtain ⟨rfl, rfl, rfl⟩ := hdraw
            exact ⟨⟨state, hfirst, hrest⟩, by simp⟩
      · rintro ⟨⟨next, hdraw, hserves⟩, rfl⟩
        refine ⟨(next, log ++ [note x]), ?_, ?_⟩
        · simp [noting, hdraw]
        · exact ih.mpr ⟨hserves, by simp⟩

theorem Serves.logged {xs : List Throw} {s s' : σ} (h : src.Serves xs s s') (log : List UInt64) :
    src.logged.Serves xs (s, log) (s', log ++ xs.map Throw.value) := by
  rw [logged_eq_noting]
  exact serves_noting.mpr ⟨h, rfl⟩

theorem serves_recorded {xs : List Throw} {s s' : σ} {throws : List Throw} :
    src.recorded.Serves xs (s, []) (s', throws) ↔ src.Serves xs s s' ∧ throws = xs := by
  rw [recorded, serves_noting, List.nil_append, List.map_id]

end Source

/-- A script serves its values in order, whatever dice are thrown. -/
theorem Script.serves (xs : List Throw) (more : List UInt64) (ending : Script.Ending) :
    Script.source.Serves xs ⟨xs.map Throw.value ++ more, ending⟩ ⟨more, ending⟩ := by
  induction xs with
  | nil => rfl
  | cons x xs ih => exact ⟨_, rfl, ih⟩

namespace Rolling

variable {σ α β : Type}

@[simp] theorem runOn_modifyGet (f : σ → α × σ) (s : σ) :
    (modifyGet f : Rolling σ α).runOn s = (.ok (f s).1, (f s).2) := rfl

theorem runOn_pure (a : α) (s : σ) : (pure a : Rolling σ α).runOn s = (.ok a, s) := rfl

theorem runOn_bind (m : Rolling σ α) (f : α → Rolling σ β) (s : σ) :
    (m >>= f).runOn s = match m.runOn s with
      | (.ok a, next) => (f a).runOn next
      | (.error e, next) => (.error e, next) := by
  change (ExceptT.bindCont f (m.runOn s).1).run (m.runOn s).2 = _
  cases m.runOn s with
  | mk outcome next => cases outcome <;> rfl

theorem runOn_bind_ok {m : Rolling σ α} {s s' : σ} {a : α} (h : m.runOn s = (.ok a, s'))
    (f : α → Rolling σ β) : (m >>= f).runOn s = (f a).runOn s' := by
  rw [runOn_bind, h]

theorem runOn_bind_error {m : Rolling σ α} {s s' : σ} {e : EvaluationFault}
    (h : m.runOn s = (.error e, s')) (f : α → Rolling σ β) :
    (m >>= f).runOn s = (.error e, s') := by
  rw [runOn_bind, h]

theorem runOn_bind_eq_ok_iff {m : Rolling σ α} {f : α → Rolling σ β} {s s' : σ} {b : β} :
    (m >>= f).runOn s = (.ok b, s') ↔
      ∃ a next, m.runOn s = (.ok a, next) ∧ (f a).runOn next = (.ok b, s') := by
  constructor
  · intro h
    cases hm : m.runOn s with
    | mk outcome next =>
        cases outcome with
        | error e => simp [runOn_bind_error hm] at h
        | ok a => exact ⟨a, next, rfl, by rwa [runOn_bind_ok hm] at h⟩
  · intro h
    obtain ⟨a, next, hm, hf⟩ := h
    rw [runOn_bind_ok hm, hf]

theorem runOn_bind_eq_error_iff {m : Rolling σ α} {f : α → Rolling σ β} {s s' : σ}
    {e : EvaluationFault} :
    (m >>= f).runOn s = (.error e, s') ↔ m.runOn s = (.error e, s') ∨
      ∃ a next, m.runOn s = (.ok a, next) ∧ (f a).runOn next = (.error e, s') := by
  constructor
  · intro h
    cases hm : m.runOn s with
    | mk outcome next =>
        cases outcome with
        | error e =>
            rw [runOn_bind_error hm] at h
            cases h
            exact .inl rfl
        | ok a => exact .inr ⟨a, next, rfl, by rwa [runOn_bind_ok hm] at h⟩
  · intro h
    rcases h with hm | ⟨a, next, hm, hf⟩
    · rw [runOn_bind_error hm]
    · rw [runOn_bind_ok hm, hf]

end Rolling

namespace Source

variable {σ : Type} {src : Source σ} {faces : UInt64} {s s' : σ}

theorem runOn_die {v : UInt64} (h : src.draw faces s = (v, s')) :
    (src.die faces).runOn s =
      if v = 0 ∨ faces < v then (.error (.badDraw v faces), s')
      else (.ok (.ofDraw v faces), s') := by
  rw [die, Rolling.runOn_bind_ok (Rolling.runOn_modifyGet _ s), h]
  split <;> rfl

theorem onDie_iff {v : UInt64} : OnDie faces v ↔ ¬(v = 0 ∨ faces < v) := by
  simp only [OnDie, not_or, UInt64.le_iff_toNat_le, UInt64.lt_iff_toNat_lt, ← UInt64.toNat_inj]
  simp
  omega

theorem runOn_die_of_onDie {v : UInt64} (h : src.draw faces s = (v, s')) (hon : OnDie faces v) :
    (src.die faces).runOn s = (.ok (.ofDraw v faces), s') := by
  rw [runOn_die h, if_neg (onDie_iff.mp hon)]

theorem runOn_die_of_not_onDie {v : UInt64} (h : src.draw faces s = (v, s'))
    (hoff : ¬ OnDie faces v) : (src.die faces).runOn s = (.error (.badDraw v faces), s') := by
  rw [runOn_die h, if_pos (Decidable.not_not.mp (mt onDie_iff.mpr hoff))]

theorem runOn_die_eq_ok_iff {o : Outcome} :
    (src.die faces).runOn s = (.ok o, s') ↔
      ∃ v, src.draw faces s = (v, s') ∧ OnDie faces v ∧ o = .ofDraw v faces := by
  constructor
  · intro h
    cases hdraw : src.draw faces s with
    | mk v next =>
        by_cases hon : OnDie faces v
        · rw [runOn_die_of_onDie hdraw hon] at h
          cases h
          exact ⟨v, rfl, hon, rfl⟩
        · rw [runOn_die_of_not_onDie hdraw hon] at h
          cases h
  · intro h
    obtain ⟨v, hdraw, hon, rfl⟩ := h
    exact runOn_die_of_onDie hdraw hon

theorem runOn_die_eq_error_iff {e : EvaluationFault} :
    (src.die faces).runOn s = (.error e, s') ↔
      ∃ v, src.draw faces s = (v, s') ∧ ¬ OnDie faces v ∧ e = .badDraw v faces := by
  constructor
  · intro h
    cases hdraw : src.draw faces s with
    | mk v next =>
        by_cases hon : OnDie faces v
        · rw [runOn_die_of_onDie hdraw hon] at h
          cases h
        · rw [runOn_die_of_not_onDie hdraw hon] at h
          cases h
          exact ⟨v, rfl, hon, rfl⟩
  · intro h
    obtain ⟨v, hdraw, hoff, rfl⟩ := h
    exact runOn_die_of_not_onDie hdraw hoff

/-- Several dice succeed with as many values, each of which the die has. -/
theorem runOn_dice_eq_ok_iff {n : Nat} {os : List Outcome} :
    (src.dice faces n).runOn s = (.ok os, s') ↔
      ∃ vs, vs.length = n ∧ (∀ v ∈ vs, OnDie faces v) ∧ src.Draws faces vs s s' ∧
        os = vs.map (.ofDraw · faces) := by
  induction n generalizing s os with
  | zero =>
      constructor
      · intro h
        cases h
        exact ⟨[], rfl, by simp, rfl, rfl⟩
      · intro h
        obtain ⟨vs, hlength, -, hdraws, rfl⟩ := h
        obtain rfl := List.length_eq_zero_iff.mp hlength
        cases hdraws
        rfl
  | succ n ih =>
      rw [dice, Rolling.runOn_bind_eq_ok_iff]
      constructor
      · intro h
        obtain ⟨o, next, ho, hrest⟩ := h
        obtain ⟨v, hdraw, hon, rfl⟩ := runOn_die_eq_ok_iff.mp ho
        obtain ⟨os', last, hos, hlast⟩ := Rolling.runOn_bind_eq_ok_iff.mp hrest
        cases hlast
        obtain ⟨vs, rfl, hvs, hdraws, rfl⟩ := ih.mp hos
        exact ⟨v :: vs, rfl, List.forall_mem_cons.mpr ⟨hon, hvs⟩, ⟨next, hdraw, hdraws⟩, rfl⟩
      · intro h
        obtain ⟨vs, hlength, hvs, hdraws, rfl⟩ := h
        cases vs with
        | nil => cases hlength
        | cons v vs =>
            obtain ⟨hon, hvs⟩ := List.forall_mem_cons.mp hvs
            obtain ⟨next, hdraw, hdraws⟩ := hdraws
            refine ⟨.ofDraw v faces, next, runOn_die_eq_ok_iff.mpr ⟨v, hdraw, hon, rfl⟩, ?_⟩
            have hrest := ih.mpr ⟨vs, Nat.succ.inj hlength, hvs, hdraws, rfl⟩
            rw [Rolling.runOn_bind_ok hrest]
            rfl

/-- Several dice fail with the first value that its die does not have. -/
theorem draws_of_dice_error {n : Nat} {e : EvaluationFault}
    (h : (src.dice faces n).runOn s = (.error e, s')) :
    ∃ vs v, (∀ w ∈ vs, OnDie faces w) ∧ ¬ OnDie faces v ∧ vs.length < n ∧
      src.Draws faces (vs ++ [v]) s s' ∧ e = .badDraw v faces := by
  induction n generalizing s with
  | zero => cases h
  | succ n ih =>
      rcases Rolling.runOn_bind_eq_error_iff.mp h with hfirst | ⟨o, next, ho, hrest⟩
      · obtain ⟨v, hdraw, hbad, rfl⟩ := runOn_die_eq_error_iff.mp hfirst
        exact ⟨[], v, by simp, hbad, Nat.succ_pos n, ⟨s', hdraw, rfl⟩, rfl⟩
      · obtain ⟨w, hdraw, hon, rfl⟩ := runOn_die_eq_ok_iff.mp ho
        rcases Rolling.runOn_bind_eq_error_iff.mp hrest with hlater | ⟨os, last, -, hpure⟩
        · obtain ⟨vs, v, hvs, hbad, hlength, hdraws, rfl⟩ := ih hlater
          exact ⟨w :: vs, v, List.forall_mem_cons.mpr ⟨hon, hvs⟩, hbad,
            Nat.succ_lt_succ hlength, ⟨next, hdraw, hdraws⟩, rfl⟩
        · cases hpure

end Source

end DiceNotation
