import DiceNotation.Proofs.Draws

/-! # Spent draws

A computation that fails has drawn all the same. On a source that takes notes it
fails or succeeds as before, and the notes are those of the very throws that took
the source from one state to the other. This holds of single throws and passes to
everything that is put together from them.
-/

namespace DiceNotation

namespace Source

variable {σ α β γ : Type} {src : Source σ} {note : Throw → γ}

/-- On the noting source, `m'` does what `m` does, and notes the throws that `m` makes after
whatever has been noted before. -/
def Notes (src : Source σ) (note : Throw → γ) (m : Rolling σ α)
    (m' : Rolling (σ × List γ) α) : Prop :=
  ∀ s, ∃ xs, src.Serves xs s (m.runOn s).2 ∧
    ∀ log, m'.runOn (s, log) = ((m.runOn s).1, (m.runOn s).2, log ++ xs.map note)

theorem notes_pure (a : α) : src.Notes note (pure a) (pure a) :=
  fun s => ⟨[], rfl, fun log => by rw [List.map_nil, List.append_nil]; rfl⟩

theorem notes_throw (e : EvaluationFault) : src.Notes note (throw e : Rolling σ α) (throw e) :=
  fun s => ⟨[], rfl, fun log => by rw [List.map_nil, List.append_nil]; rfl⟩

theorem Notes.bind {m : Rolling σ α} {m' : Rolling (σ × List γ) α} {f : α → Rolling σ β}
    {f' : α → Rolling (σ × List γ) β} (hm : src.Notes note m m')
    (hf : ∀ a, src.Notes note (f a) (f' a)) : src.Notes note (m >>= f) (m' >>= f') := by
  intro s
  obtain ⟨xs, hserves, hrun⟩ := hm s
  cases houtcome : m.runOn s with
  | mk outcome next =>
      rw [houtcome] at hserves hrun
      cases outcome with
      | error e =>
          refine ⟨xs, ?_, ?_⟩
          · rwa [Rolling.runOn_bind_error houtcome]
          · intro log
            rw [Rolling.runOn_bind_error houtcome, Rolling.runOn_bind_error (hrun log)]
      | ok a =>
          obtain ⟨ys, hlater, hrest⟩ := hf a next
          refine ⟨xs ++ ys, ?_, ?_⟩
          · rw [Rolling.runOn_bind_ok houtcome]
            exact serves_append.mpr ⟨next, hserves, hlater⟩
          · intro log
            rw [Rolling.runOn_bind_ok houtcome, Rolling.runOn_bind_ok (hrun log), hrest,
              List.map_append, List.append_assoc]

theorem Notes.mapM {f : α → Rolling σ β} {f' : α → Rolling (σ × List γ) β}
    (hf : ∀ a, src.Notes note (f a) (f' a)) (as : List α) :
    src.Notes note (as.mapM f) (as.mapM f') := by
  induction as with
  | nil => exact notes_pure []
  | cons a as ih =>
      rw [List.mapM_cons, List.mapM_cons]
      exact (hf a).bind fun b => ih.bind fun bs => notes_pure (b :: bs)

theorem notes_die (faces : UInt64) :
    src.Notes note (src.die faces) ((src.noting note).die faces) := by
  intro s
  cases hdraw : src.draw faces s with
  | mk value next =>
      rw [runOn_die hdraw]
      refine ⟨[⟨faces, value⟩], ?_, ?_⟩
      · split <;> exact ⟨next, hdraw, rfl⟩
      · intro log
        have hnoted : (src.noting note).draw faces (s, log) =
            (value, next, log ++ [note ⟨faces, value⟩]) := by
          simp [noting, hdraw]
        rw [runOn_die hnoted]
        split <;> rfl

theorem notes_dice (faces : UInt64) (n : Nat) :
    src.Notes note (src.dice faces n) ((src.noting note).dice faces n) := by
  induction n with
  | zero => exact notes_pure []
  | succ n ih => exact (notes_die faces).bind fun o => ih.bind fun os => notes_pure (o :: os)

theorem notes_explodingDie (faces limit : UInt64) (exploded room : Nat) :
    src.Notes note (src.explodingDie faces limit exploded room)
      ((src.noting note).explodingDie faces limit exploded room) := by
  induction room generalizing exploded with
  | zero =>
      rw [explodingDie, explodingDie]
      exact (notes_die faces).bind fun _ => notes_throw .tooManyDraws
  | succ room ih =>
      rw [explodingDie, explodingDie]
      refine (notes_die faces).bind fun o => ?_
      split
      · exact (ih (exploded + 1)).bind fun r => notes_pure (o :: r.1, r.2)
      · exact notes_pure ([o], room)

theorem notes_explodingDice (faces limit : UInt64) (count room : Nat) :
    src.Notes note (src.explodingDice faces limit count room)
      ((src.noting note).explodingDice faces limit count room) := by
  induction count generalizing room with
  | zero => exact notes_pure []
  | succ count ih =>
      rw [explodingDice, explodingDice]
      exact (notes_explodingDie faces limit 0 room).bind fun r =>
        (ih r.2).bind fun rest => notes_pure (r.1 ++ rest)

end Source

variable {σ γ : Type} {src : Source σ} {note : Throw → γ}

theorem DiceRoll.notes_draw (d : DiceRoll) :
    src.Notes note (d.draw src) (d.draw (src.noting note)) := by
  unfold draw
  split
  · exact Source.notes_explodingDice _ _ _ _
  · exact Source.notes_dice _ _

theorem DiceRoll.notes_evaluate (d : DiceRoll) :
    src.Notes note (d.evaluate src) (d.evaluate (src.noting note)) := by
  unfold evaluate
  split
  · exact Source.notes_throw _
  · refine d.notes_draw.bind fun rolls => ?_
    dsimp only
    split
    · exact Source.notes_throw _
    · exact Source.notes_pure _

theorem Term.notes_evaluate (t : Term) :
    src.Notes note (t.evaluate src) (t.evaluate (src.noting note)) := by
  unfold evaluate
  split
  · exact DiceRoll.notes_evaluate _
  · split
    · exact Source.notes_pure _
    · exact Source.notes_throw _

theorem Batch.notes_evaluate (b : Batch) (thresholds : Thresholds) :
    src.Notes note (b.evaluate thresholds src) (b.evaluate thresholds (src.noting note)) := by
  refine (Source.Notes.mapM Term.notes_evaluate b.terms).bind fun results => ?_
  split
  · exact Source.notes_pure _
  · exact Source.notes_throw _

theorem notes_evaluateAll (bs : List Batch) (thresholds : Thresholds) :
    src.Notes note (evaluateAll bs thresholds src) (evaluateAll bs thresholds (src.noting note)) :=
  (Source.Notes.mapM (fun b => b.notes_evaluate thresholds) bs).bind fun _ => Source.notes_pure _

end DiceNotation
