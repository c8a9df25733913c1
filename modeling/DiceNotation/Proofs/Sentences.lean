import DiceNotation.Proofs.Reading

/-! # Sentences

The reading automaton accepts exactly the token sequences of formulas, and a
text is read as a formula exactly when it is the text of that formula. As the
automaton never takes a number after a number, what it accepts is separated and
scanning loses none of it.
-/

namespace DiceNotation

namespace Reading

theorem run_cons {r r' : Reading} {t : Token} (h : r.step t = some r') (ts : List Token) :
    r.run (t :: ts) = r'.run ts := by
  simp only [run, h]

theorem exists_step_of_run {r r' : Reading} {t : Token} {ts : List Token}
    (h : r.run (t :: ts) = (r', [])) : ∃ q, r.step t = some q ∧ q.run ts = (r', []) := by
  unfold run at h
  split at h
  · rename_i q hq
    exact ⟨q, hq, h⟩
  · cases h

theorem run_append {r r' : Reading} {ts : List Token} (h : r.run ts = (r', []))
    (us : List Token) : r.run (ts ++ us) = r'.run us := by
  induction ts generalizing r with
  | nil =>
      cases h
      rfl
  | cons t ts ih =>
      obtain ⟨q, hq, hrun⟩ := exists_step_of_run h
      rw [List.cons_append, run_cons hq, ih hrun]

/-- After a number no other number is read. -/
theorem step_number_number {r r' : Reading} {n : Digits} (h : r.step (.number n) = some r')
    (m : Digits) : r'.step (.number m) = none := by
  unfold step at h
  split at h
  case h_11 => cases h
  all_goals
    rename_i heq
    cases heq
  all_goals
    cases h
    rfl

theorem separated_of_run {r r' : Reading} {ts : List Token} (h : r.run ts = (r', [])) :
    Token.Separated ts := by
  induction ts generalizing r with
  | nil => exact .nil
  | cons t ts ih =>
      obtain ⟨q, hq, hrun⟩ := exists_step_of_run h
      cases ts with
      | nil => exact .singleton t
      -- The state after `t` has to take `u` as well, and only for two numbers that matters.
      | cons u us =>
          refine List.isChain_cons_cons.mpr ⟨?_, ih hrun⟩
          intro ht hu
          obtain ⟨p, hp, -⟩ := exists_step_of_run hrun
          cases t with
          | number n =>
              cases u with
              | number m => simp [step_number_number hq m] at hp
              | die | mark | times | sign => exact hu
          | die | mark | times | sign => exact ht

theorem run_dice (o : Opening) (d : DiceText) : (opened o).run d.tokens = (dice o d, []) := by
  obtain ⟨count, faces, modifier⟩ := d
  cases count <;> rcases modifier with _ | ⟨m, _ | n⟩ <;>
    simp [DiceText.tokens, modifierTokens, ModifierText.tokens, numberTokens, run, step]

theorem step_times (o : Opening) (d : DiceText) :
    (dice o d).step .times = some (times (o.dice d)) := by
  simp [step]

theorem step_sign {r : Reading} {F : Formula} (h : r.formula? = some F) (s : Sign) :
    r.step (.sign s) = some (opened (.signed F s)) := by
  simp [step, h]

theorem run_times {r : Reading} {s : Stem} (hnone : r.formula? = some (s.close none))
    (hstep : r.step .times = some (times s)) (n : Option Digits) :
    ∃ r', r.run (timesTokens n) = (r', []) ∧ r'.formula? = some (s.close n) := by
  cases n with
  | none => exact ⟨r, rfl, hnone⟩
  | some n => exact ⟨closed (s.close (some n)), run_cons hstep _, rfl⟩

/-- A term without its suffix is read up to a state that may end there or go on with `x`. -/
theorem run_operand (F : Formula) (s : Sign) (operand : Operand) :
    ∃ r, (opened (.signed F s)).run operand.tokens = (r, []) ∧
      r.formula? = some ((Stem.signed F s operand).close none) ∧
      r.step .times = some (times (.signed F s operand)) := by
  cases operand with
  | dice d => exact ⟨dice (.signed F s) d, run_dice _ d, rfl, step_times _ d⟩
  | constant n => exact ⟨digits (.signed F s) n, rfl, rfl, rfl⟩

theorem run_summand {r : Reading} {F : Formula} (h : r.formula? = some F) (t : Summand) :
    ∃ r', r.run t.tokens = (r', []) ∧ r'.formula? = some (F.push t) := by
  obtain ⟨sign, operand, n⟩ := t
  obtain ⟨q, hrun, hnone, hstep⟩ := run_operand F sign operand
  obtain ⟨r', htimes, hF⟩ := run_times hnone hstep n
  refine ⟨r', ?_, hF⟩
  rw [Summand.tokens, run_cons (step_sign h sign), run_append hrun, htimes]

theorem run_summands {r : Reading} {F : Formula} (h : r.formula? = some F) (ts : List Summand) :
    ∃ r', r.run (ts.flatMap Summand.tokens) = (r', []) ∧
      r'.formula? = some { F with rest := F.rest ++ ts } := by
  induction ts generalizing r F with
  | nil => exact ⟨r, rfl, by simpa using h⟩
  | cons t ts ih =>
      obtain ⟨q, hrun, hq⟩ := run_summand h t
      obtain ⟨r', hrun', hF⟩ := ih hq
      refine ⟨r', ?_, by simpa [Formula.push] using hF⟩
      rw [List.flatMap_cons, run_append hrun, hrun']

/-- The tokens of a formula are read as that formula. -/
theorem run_tokens (F : Formula) :
    ∃ r, (opened .start).run F.tokens = (r, []) ∧ r.formula? = some F := by
  obtain ⟨lead, n, rest⟩ := F
  obtain ⟨q, htimes, hq⟩ := run_times rfl (step_times .start lead) n
  obtain ⟨r, hrun, hF⟩ := run_summands hq rest
  refine ⟨r, ?_, by simpa [Opening.dice, Stem.close] using hF⟩
  rw [Formula.tokens, List.append_assoc, run_append (run_dice .start lead), run_append htimes, hrun]

end Reading

namespace Formula

theorem separated_tokens (F : Formula) : Token.Separated F.tokens := by
  obtain ⟨r, hrun, -⟩ := Reading.run_tokens F
  exact Reading.separated_of_run hrun

theorem scan_text (F : Formula) : Token.scan F.text = (F.tokens, []) :=
  Token.scan_text F.separated_tokens

theorem readTokens_text (F : Formula) : readTokens F.text = .ok F := by
  obtain ⟨r, hrun, hF⟩ := Reading.run_tokens F
  unfold readTokens
  simp only [scan_text, hrun, hF]

theorem text_of_readTokens {cs : List Char} {F : Formula} (h : readTokens cs = .ok F) :
    F.text = cs := by
  cases hscan : Token.scan cs with
  | mk ts rest =>
      cases hrun : (Reading.opened .start).run ts with
      | mk r unread =>
          simp only [readTokens, hscan, hrun] at h
          split at h
          · rename_i hF
            cases h
            have htokens := Reading.tokens_run (.opened .start) ts
            rw [hrun, List.append_nil] at htokens
            have htext := Token.text_scan cs
            rw [hscan, List.append_nil] at htext
            rw [text, Reading.tokens_formula? hF, htokens]
            exact htext
          · cases h
          · cases h

end Formula

end DiceNotation
