import DiceNotation.Proofs.Keeping
import DiceNotation.Proofs.Verdicts

/-! # Rolls in checked arithmetic

A roll can also be evaluated with a running total, one draw after the other, and
with every sum, difference and conversion checked. A value that leaves its word
on the way, even if the roll fails later, is then an overflow. No draw is above
the highest face there is and the room is small, so no overflow ever occurs, and
the checked evaluation is the plain one.
-/

namespace DiceNotation

/-- The sum of two words, if it is one. -/
def addWords? (a b : UInt64) : Option UInt64 := toUInt64? (a.toNat + b.toNat)

/-- The difference of two words, if it is one. -/
def subWords? (a b : UInt64) : Option UInt64 := toUInt64? (a.toNat - b.toNat)

/-- The sum of words, if every partial sum from the left is one. -/
def sumWords? (values : List UInt64) : Option UInt64 := values.foldlM addWords? 0

/-- A number that has no word is an overflow. -/
def Rolling.fitted {σ α : Type} : Option α → Rolling σ α
  | some a => pure a
  | none => throw .totalOverflow

namespace Source

variable {σ : Type} (src : Source σ)

/-- Counts an explosion, if the draw explodes. -/
def explosion (faces limit exploded : UInt64) (o : Outcome) : Rolling σ (Option UInt64) :=
  if o.value = faces ∧ (limit = 0 ∨ exploded < limit) then
    some <$> Rolling.fitted (addWords? exploded 1)
  else pure none

/-- Throws one exploding die that has exploded `exploded` times already and adds its draws to a
total. A draw is added before there is found to be no room for it. -/
def tallyDie (faces limit : UInt64) :
    (exploded total : UInt64) → (room : Nat) → Rolling σ (List Outcome × UInt64 × Nat)
  | exploded, total, 0 => do
    let o ← src.die faces
    let _ ← explosion faces limit exploded o
    let _ ← Rolling.fitted (addWords? total o.value)
    throw .tooManyDraws
  | exploded, total, room + 1 => do
    let o ← src.die faces
    let next ← explosion faces limit exploded o
    let total ← Rolling.fitted (addWords? total o.value)
    match next with
    | some exploded =>
      let (os, total, left) ← tallyDie faces limit exploded total room
      pure (o :: os, total, left)
    | none => pure ([o], total, room)

/-- Throws a number of exploding dice and adds their draws to a total. -/
def tallyDice (faces limit : UInt64) :
    (count : Nat) → (total : UInt64) → (room : Nat) → Rolling σ (List Outcome × UInt64)
  | 0, total, _ => pure ([], total)
  | count + 1, total, room => do
    let (os, total, left) ← src.tallyDie faces limit 0 total room
    let (rest, total) ← tallyDice faces limit count total left
    pure (os ++ rest, total)

end Source

namespace DiceRoll

/-- The sum of the draws without the first ones of them in another order, so that `keep` of `count`
are left. -/
def checkedKeep? (count keep : UInt64) (draws ordered : List UInt64) : Option UInt64 := do
  let total ← sumWords? draws
  let drop ← subWords? count keep
  let dropped ← sumWords? (ordered.take drop.toNat)
  subWords? total dropped

/-- The sum of the draws that count, as long as all numbers on the way are words. -/
def checkedMagnitude? (d : DiceRoll) (draws : List UInt64) : Option UInt64 :=
  match d.modifier with
  | some (.keepHigh keep) => checkedKeep? d.count keep draws (magnitude.sorted draws)
  | some (.keepLow keep) => checkedKeep? d.count keep draws (magnitude.sorted draws).reverse
  | _ => sumWords? draws

/-- The draws of a roll with their magnitude, which exploding dice add up as they are thrown. -/
def checkedDraw {σ : Type} (d : DiceRoll) (src : Source σ) : Rolling σ (List Outcome × UInt64) :=
  match d.modifier with
  | some (.explode limit) => src.tallyDice d.faces limit d.count.toNat 0 maxDice
  | _ => do
    let rolls ← src.dice d.faces d.count.toNat
    let magnitude ← Rolling.fitted (d.checkedMagnitude? (rolls.map Outcome.value))
    pure (rolls, magnitude)

/-- Evaluates a roll with all of its arithmetic checked. -/
def checkedEvaluate {σ : Type} (d : DiceRoll) (src : Source σ) : Rolling σ TermResult := do
  match d.fault? with
  | some fault => throw fault
  | none =>
    let (rolls, magnitude) ← d.checkedDraw src
    let amount ← Rolling.fitted (toInt64? magnitude.toNat)
    let total ← Rolling.fitted (toInt64? (if d.negative then -amount.toInt else amount.toInt))
    pure {
      term := .dice d
      rolls := some rolls
      trace := some (traceText (rolls.map Outcome.value) magnitude d.negative)
      total := total }

end DiceRoll

section

variable {a b : UInt64}

theorem toNat_add_of_lt (h : a.toNat + b.toNat < wordCount) :
    (a + b).toNat = a.toNat + b.toNat := by
  rw [UInt64.toNat_add]
  exact Nat.mod_eq_of_lt h

theorem addWords?_of_lt (h : a.toNat + b.toNat < wordCount) : addWords? a b = some (a + b) := by
  have hfits : (0 : Int) ≤ a.toNat + b.toNat ∧ (a.toNat + b.toNat : Int) < wordCount := by omega
  rw [addWords?, toUInt64?, if_pos hfits, Option.some_inj, ← UInt64.toNat_inj, toNat_add_of_lt h]
  exact UInt64.toNat_ofNat_of_lt' h

theorem subWords?_of_le (h : b ≤ a) : subWords? a b = some (a - b) := by
  have hle := UInt64.le_iff_toNat_le.mp h
  have ha : a.toNat < wordCount := a.toNat_lt
  have hfits : (0 : Int) ≤ a.toNat - b.toNat ∧ (a.toNat - b.toNat : Int) < wordCount := by omega
  have hdiff : ((a.toNat : Int) - b.toNat).toNat = a.toNat - b.toNat := by omega
  rw [subWords?, toUInt64?, if_pos hfits, Option.some_inj, ← UInt64.toNat_inj, hdiff,
    UInt64.toNat_sub_of_le _ _ h]
  exact UInt64.toNat_ofNat_of_lt' (Nat.lt_of_le_of_lt (Nat.sub_le _ _) ha)

theorem toInt64?_toInt (t : Int64) : toInt64? t.toInt = some t :=
  (if_pos (fitsTotal_toInt t)).trans (congrArg some (Int64.ofInt_toInt t))

theorem toInt64?_magnitude (h : a.toNat < halfWordCount) : toInt64? a.toNat = some a.toInt64 := by
  have hpositive : a.toInt64.toInt = a.toNat := toInt_signed h false
  rw [← hpositive, toInt64?_toInt]

theorem toInt64?_signed (h : a.toNat < halfWordCount) (negative : Bool) :
    toInt64? (if negative then -a.toInt64.toInt else a.toInt64.toInt) =
      some (if negative then -a.toInt64 else a.toInt64) := by
  have hpositive : a.toInt64.toInt = a.toNat := toInt_signed h false
  rw [hpositive, ← toInt_signed h negative, toInt64?_toInt]

theorem sum_cons (v : UInt64) (vs : List UInt64) : sum (v :: vs) = v + sum vs := rfl

theorem sum_singleton (v : UInt64) : sum [v] = v := UInt64.add_zero v

theorem sum_append (vs ws : List UInt64) : sum (vs ++ ws) = sum vs + sum ws := by
  induction vs with
  | nil => exact (UInt64.zero_add (sum ws)).symm
  | cons v vs ih => rw [List.cons_append, sum_cons, sum_cons, ih, UInt64.add_assoc]

theorem foldlM_addWords? {vs : List UInt64} (h : a.toNat + exactSum vs < wordCount) :
    vs.foldlM addWords? a = some (a + sum vs) := by
  induction vs generalizing a with
  | nil => exact congrArg some (UInt64.add_zero a).symm
  | cons v vs ih =>
      rw [exactSum_cons] at h
      have hfirst : a.toNat + v.toNat < wordCount := by omega
      have hrest : (a + v).toNat + exactSum vs < wordCount := by
        rw [toNat_add_of_lt hfirst]
        omega
      rw [List.foldlM_cons, addWords?_of_lt hfirst]
      exact (ih hrest).trans (congrArg some (UInt64.add_assoc a v (sum vs)))

theorem sumWords?_of_lt {vs : List UInt64} (h : exactSum vs < wordCount) :
    sumWords? vs = some (sum vs) := by
  have hzero : (0 : UInt64).toNat + exactSum vs < wordCount := by
    rw [UInt64.toNat_zero]
    omega
  rw [sumWords?, foldlM_addWords? hzero, UInt64.zero_add]

end

namespace Source

variable {σ : Type} {src : Source σ} {faces limit exploded total : UInt64} {room : Nat} {s : σ}

theorem add_one_fits (h : exploded.toNat ≤ maxDice) : (exploded + 1).toNat = exploded.toNat + 1 ∧
    DiceNotation.addWords? exploded 1 = some (exploded + 1) := by
  have hfits : exploded.toNat + (1 : UInt64).toNat < wordCount :=
    Nat.lt_of_le_of_lt (Nat.add_le_add_right h _) (by decide)
  exact ⟨toNat_add_of_lt hfits, addWords?_of_lt hfits⟩

/-- The draw is a highest face, and the die may explode once more. -/
abbrev Continues (faces limit : UInt64) (exploded : Nat) (v : UInt64) : Prop :=
  v = faces ∧ (limit = 0 ∨ exploded < limit.toNat)

theorem explosion_of_continues {o : Outcome} (hcount : exploded.toNat ≤ maxDice)
    (h : Continues faces limit exploded.toNat o.value) :
    (explosion faces limit exploded o : Rolling σ (Option UInt64)) =
      pure (some (exploded + 1)) := by
  rw [explosion, if_pos (h.imp_right (Or.imp_right UInt64.lt_iff_toNat_lt.mpr)),
    (add_one_fits hcount).2]
  rfl

theorem explosion_of_not_continues {o : Outcome}
    (h : ¬ Continues faces limit exploded.toNat o.value) :
    (explosion faces limit exploded o : Rolling σ (Option UInt64)) = pure none := by
  rw [explosion, if_neg]
  exact fun hmore => h (hmore.imp_right (Or.imp_right UInt64.lt_iff_toNat_lt.mp))

/-- One draw for each place that is left, and one draw more, can be added to the total. -/
def Affords (total : UInt64) (room : Nat) : Prop := total.toNat + (room + 1) * maxFaces < wordCount

theorem Affords.addWords? {v : UInt64} (h : Affords total room) (hv : v.toNat ≤ maxFaces) :
    DiceNotation.addWords? total v = some (total + v) := by
  unfold Affords at h
  apply addWords?_of_lt
  have hone : maxFaces ≤ (room + 1) * maxFaces := Nat.le_mul_of_pos_left _ (Nat.succ_pos room)
  omega

/-- Draws use up the places that they take. -/
theorem Affords.add_sum {vs : List UInt64} {left : Nat} (h : Affords total room)
    (hvs : ∀ v ∈ vs, v.toNat ≤ maxFaces) (hroom : vs.length + left = room) :
    Affords (total + sum vs) left := by
  unfold Affords at *
  have hle := exactSum_le hvs
  have hsplit : (room + 1) * maxFaces = vs.length * maxFaces + (left + 1) * maxFaces := by
    rw [← Nat.add_mul, ← hroom, Nat.add_assoc]
  have hsum : (sum vs).toNat = exactSum vs := toNat_sum (by omega)
  rw [toNat_add_of_lt (by omega), hsum]
  omega

theorem Affords.add {v : UInt64} (h : Affords total (room + 1)) (hv : v.toNat ≤ maxFaces) :
    Affords (total + v) room := by
  have hsum : Affords (total + sum [v]) room := h.add_sum (by simpa using hv) (Nat.add_comm 1 room)
  rwa [sum_singleton] at hsum

theorem value_le_of_die {o : Outcome} {s' : σ} (h : (src.die faces).runOn s = (.ok o, s'))
    (hfaces : faces.toNat ≤ maxFaces) : o.value.toNat ≤ maxFaces := by
  obtain ⟨v, -, hon, rfl⟩ := runOn_die_eq_ok_iff.mp h
  exact Nat.le_trans (UInt64.le_iff_toNat_le.mp hon.2) hfaces

theorem fitted_some {α : Type} (a : α) : (Rolling.fitted (some a) : Rolling σ α) = pure a := rfl

/-- The running total is the sum of the draws in the end, and nothing is refused on the way. -/
theorem runOn_tallyDie (hfaces : faces.toNat ≤ maxFaces)
    (hroom : exploded.toNat + room ≤ maxDice) (htotal : Affords total room) :
    (src.tallyDie faces limit exploded total room).runOn s =
      ((fun r => (r.1, total + sum (r.1.map Outcome.value), r.2)) <$>
        src.explodingDie faces limit exploded.toNat room).runOn s := by
  have hcount : exploded.toNat ≤ maxDice := by omega
  induction room generalizing exploded total s with
  | zero =>
      rw [tallyDie, explodingDie, Rolling.runOn_map, Rolling.runOn_bind, Rolling.runOn_bind]
      cases hdie : (src.die faces).runOn s with
      | mk outcome next =>
          cases outcome with
          | error e => rfl
          | ok o =>
              have hsum := htotal.addWords? (value_le_of_die hdie hfaces)
              by_cases hmore : Continues faces limit exploded.toNat o.value
              · simp only [explosion_of_continues hcount hmore, hsum, fitted_some, pure_bind]
                rfl
              · simp only [explosion_of_not_continues hmore, hsum, fitted_some, pure_bind]
                rfl
  | succ room ih =>
      rw [tallyDie, explodingDie, Rolling.runOn_map, Rolling.runOn_bind, Rolling.runOn_bind]
      cases hdie : (src.die faces).runOn s with
      | mk outcome next =>
          cases outcome with
          | error e => rfl
          | ok o =>
              have hvalue := value_le_of_die hdie hfaces
              have hsum := htotal.addWords? hvalue
              by_cases hmore : Continues faces limit exploded.toNat o.value
              · have hcounted := (add_one_fits hcount).1
                have hnext := htotal.add hvalue
                simp only [explosion_of_continues hcount hmore, hsum, fitted_some, pure_bind]
                rw [if_pos hmore, Rolling.runOn_bind, Rolling.runOn_bind,
                  ih (by omega) hnext (by omega), Rolling.runOn_map, hcounted]
                cases (src.explodingDie faces limit (exploded.toNat + 1) room).runOn next with
                | mk outcome last =>
                    cases outcome with
                    | error e => rfl
                    | ok r =>
                        simp only [Except.map, Rolling.runOn_pure, List.map_cons, sum_cons,
                          UInt64.add_assoc]
              · simp only [explosion_of_not_continues hmore, hsum, fitted_some, pure_bind]
                rw [if_neg hmore]
                simp only [Except.map, Rolling.runOn_pure, List.map_cons, List.map_nil,
                  sum_singleton]

theorem runOn_tallyDice {count : Nat} (hfaces : faces.toNat ≤ maxFaces) (hroom : room ≤ maxDice)
    (htotal : Affords total room) :
    (src.tallyDice faces limit count total room).runOn s =
      ((fun os => (os, total + sum (os.map Outcome.value))) <$>
        src.explodingDice faces limit count room).runOn s := by
  induction count generalizing total room s with
  | zero =>
      rw [tallyDice, explodingDice, Rolling.runOn_map, Rolling.runOn_pure, Rolling.runOn_pure]
      exact congrArg (fun t => (Except.ok ([], t), s)) (UInt64.add_zero total).symm
  | succ count ih =>
      have hzero : (0 : UInt64).toNat + room ≤ maxDice := by
        rw [UInt64.toNat_zero]
        omega
      rw [tallyDice, explodingDice, Rolling.runOn_map, Rolling.runOn_bind, Rolling.runOn_bind,
        runOn_tallyDie hfaces hzero htotal, Rolling.runOn_map, UInt64.toNat_zero]
      cases hdie : (src.explodingDie faces limit 0 room).runOn s with
      | mk outcome next =>
          cases outcome with
          | error e => rfl
          | ok r =>
              obtain ⟨os, left⟩ := r
              obtain ⟨vs, -, -, hvs, hlength, -, rfl⟩ :=
                (runOn_explodingDie_eq_ok_iff (.inr (Nat.zero_le _))).mp hdie
              have hnext : Affords (total + sum vs) left := by
                apply htotal.add_sum _ hlength
                intro v hv
                exact Nat.le_trans (UInt64.le_iff_toNat_le.mp (hvs v hv).2) hfaces
              simp only [Except.map, Outcome.map_value_ofDraw, Rolling.runOn_bind,
                ih (by omega) hnext, Rolling.runOn_map]
              cases (src.explodingDice faces limit count left).runOn next with
              | mk outcome last =>
                  cases outcome with
                  | error e => rfl
                  | ok rest =>
                      simp only [Rolling.runOn_pure, List.map_append, Outcome.map_value_ofDraw,
                        sum_append, UInt64.add_assoc]

end Source

namespace DiceRoll

variable {σ : Type} {src : Source σ} {d : DiceRoll} {s : σ} {vs : List UInt64}

theorem checkedKeep?_eq {count keep : UInt64} {ws : List UInt64} (hkeep : keep ≤ count)
    (hperm : ws.Perm vs) (h : exactSum vs < wordCount) :
    checkedKeep? count keep vs ws = some (sum vs - sum (ws.take (count - keep).toNat)) := by
  have hsplit := exactSum_take_add_drop ws (count - keep).toNat
  rw [exactSum_perm hperm] at hsplit
  have hword : exactSum (ws.take (count - keep).toNat) < wordCount := by omega
  have hle : sum (ws.take (count - keep).toNat) ≤ sum vs := by
    rw [UInt64.le_iff_toNat_le, toNat_sum h, toNat_sum hword]
    omega
  simp only [checkedKeep?, sumWords?_of_lt h, subWords?_of_le hkeep, Option.bind_eq_bind,
    Option.bind_some, sumWords?_of_lt hword, subWords?_of_le hle]

/-- The dropped draws are never more than all, and no more dice are kept than are thrown. -/
theorem checkedMagnitude?_eq (hkeep : ∀ keep, d.Keeps keep → keep ≤ d.count)
    (h : exactSum vs < wordCount) : d.checkedMagnitude? vs = some (d.magnitude vs) := by
  unfold checkedMagnitude? magnitude
  cases hm : d.modifier with
  | none => exact sumWords?_of_lt h
  | some m =>
      cases m with
      | explode limit => exact sumWords?_of_lt h
      | keepHigh keep => exact checkedKeep?_eq (hkeep keep (.inl hm)) (magnitude.sorted_perm vs) h
      | keepLow keep =>
          exact checkedKeep?_eq (hkeep keep (.inr hm))
            ((List.reverse_perm _).trans (magnitude.sorted_perm vs)) h

theorem keep_range_of_fault? (hfault : d.fault? = none) {keep : UInt64} (hm : d.Keeps keep) :
    0 < keep ∧ keep < d.count := by
  have hrange : ¬(keep = 0 ∨ d.count ≤ keep) := fun hkeep =>
    fault?_eq_none_iff.mp hfault (.inr (.inr (.inr (.inr (.inl ⟨keep, hm, hkeep⟩)))))
  obtain ⟨hzero, hcount⟩ := not_or.mp hrange
  exact ⟨UInt64.pos_iff_ne_zero.mpr hzero, UInt64.not_le.mp hcount⟩

theorem checkedDraw_counted (hm : ∀ limit, d.modifier ≠ some (.explode limit)) :
    d.checkedDraw src = (do
      let rolls ← d.draw src
      let magnitude ← Rolling.fitted (d.checkedMagnitude? (rolls.map Outcome.value))
      pure (rolls, magnitude)) := by
  rw [draw_counted hm]
  unfold checkedDraw
  split
  · rename_i limit hexplode
    exact absurd hexplode (hm limit)
  · rfl

/-- The draws of a roll are the same in checked arithmetic, and their magnitude is no overflow. -/
theorem runOn_checkedDraw (hfault : d.fault? = none) :
    (d.checkedDraw src).runOn s =
      ((fun os => (os, d.magnitude (os.map Outcome.value))) <$> d.draw src).runOn s := by
  obtain ⟨-, -, hfaces⟩ := bounds_of_fault? hfault
  by_cases hm : d.Explodes
  · obtain ⟨limit, hm⟩ := hm
    have hzero : Source.Affords 0 maxDice := by
      unfold Source.Affords
      decide
    have hmagnitude : d.magnitude = sum := by
      funext vs
      rw [magnitude, hm]
    rw [checkedDraw, hm, draw_exploding hm, hmagnitude]
    simp only [Source.runOn_tallyDice hfaces (Nat.le_refl _) hzero, UInt64.zero_add]
  · rw [checkedDraw_counted (not_exists.mp hm), Rolling.runOn_map, Rolling.runOn_bind]
    cases hdraw : (d.draw src).runOn s with
    | mk outcome next =>
        cases outcome with
        | error e => rfl
        | ok os =>
            obtain ⟨vs, hvs, -, rfl⟩ := runOn_draw_eq_ok_iff.mp hdraw
            have hsum : exactSum vs < wordCount :=
              Nat.lt_of_le_of_lt (hvs.exactSum_le hfault) (by decide)
            have hkeep (keep : UInt64) (hkeeps : d.Keeps keep) : keep ≤ d.count :=
              UInt64.le_of_lt (keep_range_of_fault? hfault hkeeps).2
            simp only [Outcome.map_value_ofDraw, checkedMagnitude?_eq hkeep hsum,
              Source.fitted_some, pure_bind, Rolling.runOn_pure, Except.map]

/-- No evaluation of a roll, whether it fails or not, comes to a number that its word cannot hold:
evaluated in checked arithmetic it makes the same draws and comes to the same outcome. -/
theorem runOn_checkedEvaluate (d : DiceRoll) (src : Source σ) (s : σ) :
    (d.checkedEvaluate src).runOn s = (d.evaluate src).runOn s := by
  cases hfault : d.fault? with
  | some fault =>
      rw [runOn_evaluate_of_fault? hfault, checkedEvaluate, hfault]
      rfl
  | none =>
      rw [checkedEvaluate, hfault]
      refine (Rolling.runOn_bind _ _ s).trans ?_
      rw [runOn_checkedDraw hfault, Rolling.runOn_map]
      cases hdraw : (d.draw src).runOn s with
      | mk outcome next =>
          cases outcome with
          | error e =>
              rw [runOn_evaluate_of_draw_error hfault hdraw]
              rfl
          | ok os =>
              obtain ⟨vs, hvs, -, rfl⟩ := runOn_draw_eq_ok_iff.mp hdraw
              have hlt := hvs.magnitude_lt hfault
              rw [runOn_evaluate_of_draw hfault hvs hdraw]
              simp only [Except.map, Outcome.map_value_ofDraw, toInt64?_magnitude hlt,
                toInt64?_signed hlt, Source.fitted_some, pure_bind, Rolling.runOn_pure]
              rfl

end DiceRoll

end DiceNotation
