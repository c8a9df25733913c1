import DiceNotation.Proofs.Rules

/-! # Matching a formula

The rules and the automaton go through a text side by side. Wherever a term has
been matched the automaton may end, and the rules that have failed there are those
its state tells, as far as they come before a sign. So matching succeeds with the
formula that the automaton reads, or has its furthest failures where the automaton
stops. A dice term without its faces and a suffix without its number are given up
for something shorter, but what failed in them stays the furthest.
-/

namespace DiceNotation

namespace Matcher

variable {c : Cursor} {ts : List Token} {rest : List Char} {a : Attempts} {α : Type}
  {m : Matcher α} {k : Nat}

theorem upTo_ok {x : α} {xs : List α} {next last : Cursor} (h : m c = .ok (x, next))
    (hlater : upTo k m next = .ok (xs, last)) : upTo (k + 1) m c = .ok (x :: xs, last) := by
  simp only [upTo, h, hlater]

theorem upTo_error (h : m c = .error a) : upTo (k + 1) m c = .ok ([], c.moved [] a) := by
  simp only [upTo, h]
  rfl

theorem upTo_given_up (h : c.Sees ts rest) (hts : ∀ s us, ts ≠ .sign s :: us)
    (hlt : c.position < c.attempts.position) : upTo (k + 1) modTerm c = .ok ([], c) := by
  have herror := modTerm_elsewhere h hts
  rw [Attempts.add_of_lt hlt] at herror
  exact upTo_error herror

theorem operand_constant {n : Digits} (h : c.Sees (.number n :: ts) rest)
    (hdice : dice c = .error a) :
    operand c = .ok (.constant n, c.moved [.number n] a) := by
  rw [operand, either_error (map_error hdice)]
  exact map_ok (digitRun_ok (h.retry a))

theorem operand_error (h : c.Sees ts rest) (hts : ∀ n us, ts ≠ .number n :: us)
    (hdice : dice c = .error a) : operand c = .error (a.add c.position .constant) := by
  rw [operand, either_error (map_error hdice)]
  exact map_error (digitRun_error (h.retry a) hts)

section

variable {s : Sign} {x : Operand} {n : Option Digits} {c₁ c₂ c₃ : Cursor}

theorem modTerm_ok (hsign : either (signed .add .plus) (signed .sub .minus) c = .ok (s, c₁))
    (hoperand : operand c₁ = .ok (x, c₂)) (htimes : optional batch c₂ = .ok (n, c₃)) :
    modTerm c = .ok (⟨s, x, n⟩, c₃) := by
  apply rule_ok
  rw [bind_ok hsign, bind_ok hoperand, bind_ok htimes]
  rfl

theorem modTerm_error (hsign : either (signed .add .plus) (signed .sub .minus) c = .ok (s, c₁))
    (hoperand : operand c₁ = .error a) (hlt : c.position < a.position) :
    modTerm c = .error a := by
  refine rule_error ?_ (Attempts.note_of_lt hlt)
  rw [bind_ok hsign, bind_error hoperand]

variable {d : DiceText} {us : List Summand}

theorem term_ok (hdice : dice c = .ok (d, c₁)) (htimes : optional batch c₁ = .ok (n, c₂)) :
    term c = .ok ((d, n), c₂) := by
  apply rule_ok
  rw [bind_ok hdice, bind_ok htimes]
  rfl

theorem formula_ok (hterm : term c = .ok ((d, n), c₁)) (hmany : many modTerm c₁ = .ok (us, c₂))
    (hend : c₂.ahead = []) : formula c = .ok (⟨d, n, us⟩, c₂) := by
  have hfinish : rule .finish atEnd c₂ = .ok ((), c₂) := rule_ok (by rw [atEnd, hend]; rfl)
  apply rule_ok
  rw [bind_ok hterm]
  dsimp only
  rw [bind_ok hmany, bind_ok hfinish]
  rfl

theorem formula_unfinished (hterm : term c = .ok ((d, n), c₁))
    (hmany : many modTerm c₁ = .ok (us, c₂)) (hend : c₂.ahead ≠ [])
    (hattempts : c₂.attempts.add c₂.position .finish = a) (hlt : c.position < a.position) :
    formula c = .error a := by
  have hfinish : rule .finish atEnd c₂ = .error a := by
    refine rule_error ?_ (Attempts.note_self.trans hattempts)
    rw [atEnd, if_neg (by simpa using hend)]
  refine rule_error ?_ (Attempts.note_of_lt hlt)
  rw [bind_ok hterm]
  dsimp only
  rw [bind_ok hmany, bind_error hfinish]

theorem formula_error (hdice : dice c = .error a)
    (hnote : ∀ r, c.attempts.note r c.position a = a) : formula c = .error a := by
  have hterm : term c = .error a := rule_error (bind_error hdice) (hnote .term)
  exact rule_error (bind_error hterm) (hnote .formula)

end

end Matcher

namespace Token

theorem exists_modifier (ts : List Token) :
    ∃ o us, ts = modifierTokens o ++ us ∧ Matcher.EndsModifier o us := by
  rcases ts with _ | ⟨t, ts⟩
  · exact ⟨none, [], rfl, by simp [Matcher.EndsModifier]⟩
  · cases t with
    | mark m =>
        rcases ts with _ | ⟨u, ts⟩
        · exact ⟨some ⟨m, none⟩, [], rfl, by simp [Matcher.EndsModifier]⟩
        · cases u with
          | number n => exact ⟨some ⟨m, some n⟩, ts, rfl, by simp [Matcher.EndsModifier]⟩
          | die | mark | times | sign =>
              exact ⟨some ⟨m, none⟩, _ :: ts, rfl, by simp [Matcher.EndsModifier]⟩
    | number | die | times | sign => exact ⟨none, _ :: ts, rfl, by simp [Matcher.EndsModifier]⟩

theorem die_cases (o : Option Digits) (ts : List Token) :
    (∃ (d : DiceText) (us : List Token), numberTokens o ++ .die :: ts = d.tokens ++ us ∧
      Matcher.EndsModifier d.modifier us) ∨ ∀ n us, ts ≠ .number n :: us := by
  rcases ts with _ | ⟨t, ts⟩
  · exact .inr (by simp)
  · cases t with
    | number n =>
        obtain ⟨m, us, rfl, hend⟩ := exists_modifier ts
        exact .inl ⟨⟨o, n, m⟩, us, by simp [DiceText.tokens], hend⟩
    | die | mark | times | sign => exact .inr (by simp)

/-- Any tokens begin with a dice term, with one that lacks its faces, with digits that no `d`
follows, or with neither digits nor a `d`. -/
theorem dice_cases (ts : List Token) :
    (∃ (d : DiceText) (us : List Token), ts = d.tokens ++ us ∧
      Matcher.EndsModifier d.modifier us) ∨
    (∃ o us, ts = numberTokens o ++ .die :: us ∧ ∀ n vs, us ≠ .number n :: vs) ∨
    (∃ n us, ts = .number n :: us ∧ ∀ vs, us ≠ .die :: vs) ∨
    (∀ n us, ts ≠ .number n :: us) ∧ ∀ us, ts ≠ .die :: us := by
  have hdie (o : Option Digits) (us : List Token) (h : ts = numberTokens o ++ .die :: us) :
      (∃ (d : DiceText) (us : List Token), ts = d.tokens ++ us ∧
        Matcher.EndsModifier d.modifier us) ∨
      ∃ o us, ts = numberTokens o ++ .die :: us ∧ ∀ n vs, us ≠ .number n :: vs := by
    rw [h]
    exact (die_cases o us).imp_right fun hus => ⟨o, us, rfl, hus⟩
  rw [← or_assoc]
  rcases ts with _ | ⟨t, ts⟩
  · exact .inr (.inr (by simp))
  · cases t with
    | die => exact .inl (hdie none ts rfl)
    | number n =>
        rcases ts with _ | ⟨u, ts⟩
        · exact .inr (.inl ⟨n, [], rfl, by simp⟩)
        · cases u with
          | die => exact .inl (hdie (some n) ts rfl)
          | number | mark | times | sign => exact .inr (.inl ⟨n, _ :: ts, rfl, by simp⟩)
    | mark | times | sign => exact .inr (.inr (by simp))

end Token

namespace Reading

variable {r r' : Reading} {F : Formula} {c c' : Cursor} {ts us : List Token} {rest : List Char}

theorem run_stop (h : ∀ t us, ts = t :: us → r.step t = none) : r.run ts = (r, ts) := by
  cases ts with
  | nil => rfl
  | cons t ts => simp only [run, h t ts rfl]

theorem tokens_of_run (h : r.run us = (r', [])) : r'.tokens = r.tokens ++ us := by
  have hall := r.tokens_run us
  rwa [h, List.append_nil] at hall

theorem position_of_run {a : Attempts} (h : r.run us = (r', []))
    (hposition : c.position = (Token.text r.tokens).length) :
    (c.moved us a).position = (Token.text r'.tokens).length := by
  rw [tokens_of_run h, Token.text_append, List.length_append, ← hposition]
  rfl

/-- The cursor stands where the reading has got to, and behind a term that may end there. The rules
that may go on with the term have failed. -/
structure Complete (r : Reading) (F : Formula) (c : Cursor) (ts : List Token) (rest : List Char) :
    Prop where
  sees : c.Sees ts rest
  formula_eq : r.formula? = some F
  settled : ∀ t us, ts = t :: us → (∀ s, t ≠ .sign s) → r.step t = none
  position_eq : c.position = (Token.text r.tokens).length
  failed_eq : ∃ rs, c.attempts.Stand c.position rs ∧ r.failed = rs ++ [.modTerm, .finish]

/-- Matching has come to `c'` with these signed terms behind the formula `F`. Either the text ends
there, as does the reading of its tokens, or the furthest failures are those that the reading tells
where it stops. -/
inductive Ends (r : Reading) (F : Formula) (ts : List Token) (rest : List Char)
    (us : List Summand) (c' : Cursor) : Prop where
  | finished {r' : Reading} : c'.ahead = [] → rest = [] → r.run ts = (r', []) →
      r'.formula? = some { F with rest := F.rest ++ us } → Ends r F ts rest us c'
  | stopped {r' : Reading} {unread : List Token} : c'.ahead ≠ [] → r.run ts = (r', unread) →
      (r'.formula? = none ∨ unread ≠ [] ∨ rest ≠ []) → (∀ n, r' ≠ .digits .start n) →
      c'.attempts.add c'.position .finish = r'.attempts → Ends r F ts rest us c'

theorem Ends.of_run {us : List Summand} {ts' : List Token} (h : r'.Ends F ts' rest us c')
    (hrun : r.run ts = r'.run ts') : r.Ends F ts rest us c' := by
  cases h with
  | finished hahead hrest hlast hF => exact .finished hahead hrest (hrun.trans hlast) hF
  | stopped hahead hlast hstop hdigits hattempts =>
      exact .stopped hahead (hrun.trans hlast) hstop hdigits hattempts

theorem Ends.push {t : Summand} {us : List Summand} (h : r.Ends (F.push t) ts rest us c') :
    r.Ends F ts rest (t :: us) c' := by
  cases h with
  | finished hahead hrest hlast hF =>
      refine .finished hahead hrest hlast ?_
      rw [hF, Formula.push, List.append_assoc, List.singleton_append]
  | stopped hahead hlast hstop hdigits hattempts =>
      exact .stopped hahead hlast hstop hdigits hattempts

theorem Complete.ends_here (h : r.Complete F c ts rest) (hts : ∀ s us, ts ≠ .sign s :: us)
    (k : Nat) :
    ∃ c', Matcher.upTo (k + 1) Matcher.modTerm c = .ok ([], c') ∧ r.Ends F ts rest [] c' := by
  obtain ⟨rs, hstand, hfailed⟩ := h.failed_eq
  have herror := Matcher.modTerm_elsewhere h.sees hts
  rw [hstand.add_eq] at herror
  refine ⟨_, Matcher.upTo_error herror, ?_⟩
  have hrun : r.run ts = (r, ts) := by
    refine run_stop fun t us heq => h.settled t us heq ?_
    rintro s rfl
    exact hts s us heq
  by_cases hend : ts = [] ∧ rest = []
  · obtain ⟨rfl, rfl⟩ := hend
    refine .finished h.sees.ahead_eq rfl hrun ?_
    rw [h.formula_eq, List.append_nil]
  · have hdigits : ∀ n, r ≠ .digits .start n := by
      rintro n rfl
      cases h.formula_eq
    refine .stopped ?_ hrun (.inr (not_and_or.mp hend)) hdigits ?_
    · intro hnil
      have hahead : c.ahead = [] := hnil
      cases ts with
      | nil => exact hend ⟨rfl, h.sees.ahead_eq.symm.trans hahead⟩
      | cons t ts => exact h.sees.ahead_ne_nil hahead
    · rw [(c.stand_retry _).add_eq, attempts, hfailed, ← h.position_eq]
      simp

/-- A term without its suffix has been matched, and the rules that may go on with it have failed,
up to the suffix. -/
structure Unclosed (r : Reading) (s : Stem) (c : Cursor) (ts : List Token) (rest : List Char) :
    Prop where
  sees : c.Sees ts rest
  formula_eq : r.formula? = some (s.close none)
  step_times : r.step .times = some (.times s)
  settled : ∀ t us, ts = t :: us → (∀ s, t ≠ .sign s) → t ≠ .times → r.step t = none
  position_eq : c.position = (Token.text r.tokens).length
  failed_eq : ∃ rs, c.attempts.Stand c.position rs ∧ r.failed = rs ++ [.batch, .modTerm, .finish]

/-- Matching goes on behind a term: with a reading that has got there too, or, where something has
failed further ahead already, not at all. -/
inductive Proceeds (r : Reading) (F : Formula) (ts : List Token) (rest : List Char) (c : Cursor) :
    Prop where
  | reading {q : Reading} {us : List Token} : q.Complete F c us rest → r.run ts = q.run us →
      Proceeds r F ts rest c
  | givenUp {us : List Token} : c.Sees us rest → (∀ s vs, us ≠ .sign s :: vs) →
      c.position < c.attempts.position → r.Ends F ts rest [] c → Proceeds r F ts rest c

theorem Proceeds.of_run {us : List Token} (h : r'.Proceeds F us rest c)
    (hrun : r.run ts = r'.run us) : r.Proceeds F ts rest c := by
  cases h with
  | reading hcomplete hlast => exact .reading hcomplete (hrun.trans hlast)
  | givenUp hsees hnone hlt hends => exact .givenUp hsees hnone hlt (hends.of_run hrun)

theorem length_ahead_moved (c : Cursor) (us : List Token) (a : Attempts) :
    (c.moved us a).ahead.length ≤ c.ahead.length := by
  simp [Cursor.moved]

/-- A term gets its suffix, if it has a whole one. -/
theorem Unclosed.exists_suffix {s : Stem} (h : r.Unclosed s c ts rest) :
    ∃ o c', Matcher.optional Matcher.batch c = .ok (o, c') ∧ c'.ahead.length ≤ c.ahead.length ∧
      r.Proceeds (s.close o) ts rest c' := by
  obtain ⟨hsees, hformula, hstep, hsettled, hposition, rs, hstand, hfailed⟩ := h
  by_cases htimes : ∃ us, ts = .times :: us
  · obtain ⟨us, rfl⟩ := htimes
    by_cases hnumber : ∃ n vs, us = .number n :: vs
    · obtain ⟨n, vs, rfl⟩ := hnumber
      have hread : r.run [.times, .number n] = (.closed (s.close (some n)), []) := run_cons hstep _
      have hlast : c.Sees ([.times, .number n] ++ vs) rest := hsees
      refine ⟨some n, _, Matcher.optional_ok (Matcher.batch_ok hsees), length_ahead_moved _ _ _,
        .reading ⟨hlast.moved _, rfl, ?_, position_of_run hread hposition, [], ?_, rfl⟩
          (run_append hread vs)⟩
      · intro t us _ ht
        cases t with
        | sign s => exact absurd rfl (ht s)
        | number | die | mark | times => rfl
      · exact hstand.ahead (Nat.lt_add_of_pos_right (Token.length_text_pos _ _))
    · have hnone : ∀ n vs, us ≠ .number n :: vs := fun n vs hus => hnumber ⟨n, vs, hus⟩
      have hread : r.run [.times] = (.times s, []) := run_cons hstep _
      have hstop : (times s).run us = (times s, us) := by
        refine run_stop fun t vs hus => ?_
        cases t with
        | number n => exact absurd hus (hnone n vs)
        | die | mark | times | sign => rfl
      have hplace : c.position + 1 = (Token.text (times s).tokens).length :=
        position_of_run (a := c.attempts) hread hposition
      have hbatch := Matcher.batch_without_number hsees hnone hstand
      refine ⟨none, _, Matcher.optional_error hbatch, Nat.le_refl _,
        .givenUp (hsees.retry _) (by simp) (Nat.lt_succ_self _)
          (.stopped hsees.ahead_ne_nil ((run_append hread us).trans hstop) (.inl rfl) (by simp) ?_)⟩
      rw [Cursor.attempts_moved, Attempts.add_of_lt (Nat.lt_succ_self _), hplace]
      rfl
  · have hnone : ∀ us, ts ≠ .times :: us := fun us hus => htimes ⟨us, hus⟩
    have hbatch := Matcher.batch_elsewhere hsees hnone
    rw [hstand.add_eq] at hbatch
    refine ⟨none, _, Matcher.optional_error hbatch, Nat.le_refl _,
      .reading ⟨hsees.retry _, hformula, ?_, hposition, rs ++ [.batch], c.stand_retry _, ?_⟩ rfl⟩
    · intro t us hus ht
      exact hsettled t us hus ht fun htimes => hnone us (htimes ▸ hus)
    · simpa using hfailed

theorem unclosed_dice {o : Opening} {d : DiceText} (h : c.Sees (d.tokens ++ ts) rest)
    (hend : Matcher.EndsModifier d.modifier ts)
    (hposition : c.position = (Token.text (opened o).tokens).length) {b : Attempts}
    (hb : b.Stand (c.position + (Token.text d.tokens).length) (Matcher.tried d.modifier)) :
    (dice o d).Unclosed (o.dice d) (c.moved d.tokens b) ts rest := by
  refine ⟨h.moved b, rfl, step_times o d, ?_, position_of_run (run_dice o d) hposition,
    Matcher.tried d.modifier, hb, ?_⟩
  all_goals obtain ⟨count, faces, modifier⟩ := d
  · intro t us hts hsign htimes
    cases t with
    | sign s => exact absurd rfl (hsign s)
    | times => exact absurd rfl htimes
    | die => rcases modifier with _ | ⟨m, _ | n⟩ <;> rfl
    | mark m =>
        rcases modifier with _ | ⟨m', _ | n⟩
        · exact absurd hts (hend m us)
        · rfl
        · rfl
    | number m =>
        rcases modifier with _ | ⟨m', _ | n⟩
        · rfl
        · exact absurd hts (hend rfl m us)
        · rfl
  · rcases modifier with _ | ⟨m, _ | n⟩ <;> rfl

theorem unclosed_constant {s : Sign} {n : Digits} (h : c.Sees (.number n :: ts) rest)
    (hts : ∀ us, ts ≠ .die :: us)
    (hposition : c.position = (Token.text (opened (.signed F s)).tokens).length) {a : Attempts}
    {rs : List Rule} (ha : a.Stand c.position rs) :
    (digits (.signed F s) n).Unclosed (.signed F s (.constant n)) (c.moved [.number n] a) ts
      rest := by
  refine ⟨h.past a, rfl, rfl, ?_, position_of_run (run_cons rfl []) hposition, [], ?_, rfl⟩
  · intro t us heq hsign htimes
    cases t with
    | sign s => exact absurd rfl (hsign s)
    | times => exact absurd rfl htimes
    | die => exact absurd heq (hts us)
    | number | mark => rfl
  · exact ha.ahead (Nat.lt_add_of_pos_right (Token.length_text_pos _ _))

theorem run_die_stop (o : Opening) (count : Option Digits) (hts : ∀ n us, ts ≠ .number n :: us) :
    (die o count).run ts = (die o count, ts) := by
  refine run_stop fun t us heq => ?_
  cases t with
  | number n => exact absurd heq (hts n us)
  | die | mark | times | sign => rfl

theorem run_numberTokens_die (o : Opening) (count : Option Digits) :
    (opened o).run (numberTokens count ++ [.die]) = (die o count, []) := by
  cases count <;> rfl

theorem run_opened_stop (o : Opening) (hnumber : ∀ n us, ts ≠ .number n :: us)
    (hdie : ∀ us, ts ≠ .die :: us) : (opened o).run ts = (opened o, ts) := by
  refine run_stop fun t us heq => ?_
  cases t with
  | number n => exact absurd heq (hnumber n us)
  | die => exact absurd heq (hdie us)
  | mark | times | sign => rfl

/-- A term is due, and nothing has failed where it begins. -/
structure Due (o : Opening) (c : Cursor) (ts : List Token) (rest : List Char) : Prop where
  sees : c.Sees ts rest
  stand : c.attempts.Stand c.position []
  position_eq : c.position = (Token.text (opened o).tokens).length

theorem Due.stops_at_die {o : Opening} {n : Option Digits}
    (h : Due o c (numberTokens n ++ .die :: ts) rest) (hts : ∀ m us, ts ≠ .number m :: us) :
    (opened o).run (numberTokens n ++ .die :: ts) = (die o n, ts) ∧
      Matcher.dice c = .error (die o n).attempts ∧
      c.position + (Token.text (numberTokens n)).length < (die o n).attempts.position := by
  have hdie := run_numberTokens_die o n
  have hplace := position_of_run (a := c.attempts) hdie h.position_eq
  have hattempts : (⟨c.position + (Token.text (numberTokens n ++ [.die])).length, [.faces]⟩ :
      Attempts) = (die o n).attempts := congrArg (Attempts.mk · [.faces]) hplace
  refine ⟨?_, ?_, ?_⟩
  · rw [List.append_cons, run_append hdie, run_die_stop o n hts]
  · rw [← hattempts]
    exact Matcher.dice_without_faces h.sees hts h.stand
  · rw [← hattempts]
    simp [Token.chars]

/-- Behind a sign, an operand is matched as the reading goes on, or digits of a dice term without
faces are taken for a constant, or it is not matched where the reading stops. -/
theorem Due.operand_cases {F : Formula} {s : Sign} (h : Due (.signed F s) c ts rest) :
    (∃ x us vs a q, Matcher.operand c = .ok (x, c.moved us a) ∧ ts = us ++ vs ∧
      (opened (.signed F s)).run us = (q, []) ∧
      q.Unclosed (.signed F s x) (c.moved us a) vs rest) ∨
    (∃ n us, ts = .number n :: .die :: us ∧ Matcher.operand c =
        .ok (.constant n, c.moved [.number n] (die (.signed F s) (some n)).attempts) ∧
      ∀ m vs, us ≠ .number m :: vs) ∨
    ∃ q unread, Matcher.operand c = .error q.attempts ∧ c.position ≤ q.attempts.position ∧
      (opened (.signed F s)).run ts = (q, unread) ∧ q.formula? = none ∧
      ∀ n, q ≠ .digits .start n := by
  obtain ⟨hsees, hstand, hposition⟩ := h
  rcases Token.dice_cases ts with ⟨d, us, rfl, hend⟩ | ⟨o, us, rfl, hnone⟩ | ⟨n, us, rfl, hdie⟩ |
    ⟨hnumber, hdie⟩
  · obtain ⟨a, hdice, ha⟩ := Matcher.dice_ok hsees hend hstand
    exact .inl ⟨.dice d, d.tokens, us, a, _, Matcher.either_ok (Matcher.map_ok hdice), rfl,
      run_dice _ d, unclosed_dice hsees hend hposition ha⟩
  · obtain ⟨hrun, hdice, hlt⟩ := Due.stops_at_die ⟨hsees, hstand, hposition⟩ hnone
    cases o with
    | none =>
        have hoperand := Matcher.operand_error hsees (by simp [numberTokens]) hdice
        rw [Attempts.add_of_lt (p := c.position) hlt] at hoperand
        exact .inr (.inr ⟨_, us, hoperand, Nat.le_of_lt hlt, hrun, rfl, by simp⟩)
    | some n => exact .inr (.inl ⟨n, us, rfl, Matcher.operand_constant hsees hdice, hnone⟩)
  · have hdice := Matcher.dice_without_die hsees hdie hstand
    exact .inl ⟨.constant n, [.number n], us, _, _, Matcher.operand_constant hsees hdice, rfl,
      run_cons rfl [], unclosed_constant hsees hdie hposition (Attempts.stand_mk _ _)⟩
  · have hdice := Matcher.dice_elsewhere hsees hnumber hdie hstand
    have hoperand := Matcher.operand_error hsees hnumber hdice
    rw [(Attempts.stand_mk _ _).add_eq, hposition] at hoperand
    exact .inr (.inr ⟨opened (.signed F s), ts, hoperand, Nat.le_of_eq hposition,
      run_opened_stop _ hnumber hdie, rfl, by simp⟩)

theorem Complete.modTerm_cases {s : Sign} (h : r.Complete F c (.sign s :: ts) rest) :
    (∃ t c', Matcher.modTerm c = .ok (t, c') ∧ c'.ahead.length < c.ahead.length ∧
      r.Proceeds (F.push t) (.sign s :: ts) rest c') ∨
    ∃ a, Matcher.modTerm c = .error a ∧ r.Ends F (.sign s :: ts) rest [] (c.moved [] a) := by
  obtain ⟨rs, hfailed, -⟩ := h.failed_eq
  obtain ⟨b, hsign, hstand⟩ := Matcher.sign_ok h.sees hfailed
  have hread : r.run [.sign s] = (opened (.signed F s), []) :=
    run_cons (step_sign h.formula_eq s) []
  have hdue : Due (.signed F s) (c.moved [.sign s] b) ts rest :=
    ⟨h.sees.past b, hstand, position_of_run hread h.position_eq⟩
  have hlt : c.position < (c.moved [.sign s] b).position := Nat.lt_succ_self _
  have hless : (c.moved [.sign s] b).ahead.length < c.ahead.length := by
    have hpos := List.length_pos_iff.mpr h.sees.ahead_ne_nil
    simp only [Cursor.moved, List.length_drop, Token.text_cons, Token.chars, Token.text_nil,
      List.append_nil, List.length_singleton]
    omega
  generalize c.moved [.sign s] b = c₁ at hsign hdue hlt hless
  have hshorter (us : List Token) (a : Attempts) : (c₁.moved us a).ahead.length < c.ahead.length :=
    Nat.lt_of_le_of_lt (length_ahead_moved c₁ us a) hless
  rcases hdue.operand_cases with ⟨x, us, vs, a, q, hoperand, rfl, hrun, hopen⟩ |
    ⟨n, us, rfl, hoperand, hnone⟩ | ⟨q, unread, hoperand, hle, hrun, hq, hdigits⟩
  · obtain ⟨o, c', htimes, hle, hproceeds⟩ := hopen.exists_suffix
    refine .inl ⟨_, c', Matcher.modTerm_ok hsign hoperand htimes,
      Nat.lt_of_le_of_lt hle (hshorter us a), hproceeds.of_run ?_⟩
    rw [run_cons (step_sign h.formula_eq s), run_append hrun]
  -- Nothing can follow the constant, since the text goes on with a `d` there.
  · obtain ⟨hrun, -, hlast⟩ := hdue.stops_at_die (n := some n) hnone
    have hbehind : (c₁.moved [.number n] (die (.signed F s) (some n)).attempts).Sees
        (.die :: us) rest := hdue.sees.past _
    have hfar : (c₁.moved [.number n] (die (.signed F s) (some n)).attempts).position <
        (die (.signed F s) (some n)).attempts.position := hlast
    have hbatch := Matcher.batch_elsewhere hbehind (by simp)
    rw [Cursor.attempts_moved, Attempts.add_of_lt hfar] at hbatch
    refine .inl ⟨_, _, Matcher.modTerm_ok hsign hoperand (Matcher.optional_error hbatch),
      hshorter _ _, .givenUp hbehind (by simp) hfar ?_⟩
    exact .stopped hbehind.ahead_ne_nil ((run_append hread _).trans hrun) (.inl rfl) (by simp)
      (Attempts.add_of_lt hfar .finish)
  · have hfar := Nat.lt_of_lt_of_le hlt hle
    exact .inr ⟨_, Matcher.modTerm_error hsign hoperand hfar, .stopped h.sees.ahead_ne_nil
      ((run_append hread ts).trans hrun) (.inl hq) hdigits (Attempts.add_of_lt hfar .finish)⟩

/-- Signed terms are matched as far as they go. -/
theorem Proceeds.exists_ends {k : Nat} (h : r.Proceeds F ts rest c) (hk : c.ahead.length < k) :
    ∃ us c', Matcher.upTo k Matcher.modTerm c = .ok (us, c') ∧ r.Ends F ts rest us c' := by
  induction k generalizing r F c ts with
  | zero => exact absurd hk (Nat.not_lt_zero _)
  | succ k ih =>
      cases h with
      | givenUp hsees hnone hlt hends => exact ⟨[], c, Matcher.upTo_given_up hsees hnone hlt, hends⟩
      | @reading q us hcomplete hrun =>
          by_cases hsign : ∃ s vs, us = .sign s :: vs
          · obtain ⟨s, vs, rfl⟩ := hsign
            rcases hcomplete.modTerm_cases with ⟨t, c', hterm, hless, hproceeds⟩ | ⟨a, hterm, hends⟩
            · obtain ⟨us, last, hmany, hends⟩ := ih hproceeds (by omega)
              exact ⟨t :: us, last, Matcher.upTo_ok hterm hmany, (hends.push).of_run hrun⟩
            · exact ⟨[], _, Matcher.upTo_error hterm, hends.of_run hrun⟩
          · have hnone : ∀ s vs, us ≠ .sign s :: vs := fun s vs hus => hsign ⟨s, vs, hus⟩
            obtain ⟨c', hmany, hends⟩ := hcomplete.ends_here hnone k
            exact ⟨[], c', hmany, hends.of_run hrun⟩

theorem error_attempts {cs left : List Char} (h : Token.text r.tokens ++ left = cs) :
    r.attempts.error cs = r.error left := by
  have hsplit := splitBytes_utf8ByteSize (Token.text r.tokens) left
  rw [Token.utf8ByteSize_text, h] at hsplit
  simp only [Attempts.error, attempts, hsplit, error, expected, Option.map_some, Option.getD_some]

theorem position_pos_of_run {o : Opening} {d : DiceText} {unread : List Token}
    (h : (dice o d).run ts = (r, unread)) : 0 < r.attempts.position := by
  have hprefix := (dice o d).tokens_prefix_run ts
  rw [h] at hprefix
  have hmem : .die ∈ r.tokens := hprefix.subset (by simp [tokens, DiceText.tokens])
  have hchar : 'd' ∈ Token.text r.tokens :=
    List.mem_flatMap.mpr ⟨.die, hmem, List.mem_singleton_self _⟩
  exact List.length_pos_of_mem hchar

end Reading

namespace Formula

open Reading

theorem readTokens_of_run {cs rest : List Char} {ts unread : List Token} {r : Reading}
    (hscan : Token.scan cs = (ts, rest)) (hrun : (opened .start).run ts = (r, unread))
    (hstop : r.formula? = none ∨ unread ≠ [] ∨ rest ≠ []) (hdigits : ∀ n, r ≠ .digits .start n) :
    readTokens cs = .error (r.attempts.error cs) := by
  have htext := (longestViable_run hscan hrun).starts.text_append
  rw [error_attempts htext]
  simp only [readTokens, hscan, hrun]
  split
  · rename_i hF
    simp [hF] at hstop
  · rename_i n _
    exact absurd rfl (hdigits n)
  · rfl

/-- Matching by the rules reads the tokens of a text. -/
theorem read_eq_readTokens (cs : List Char) : read cs = readTokens cs := by
  cases hscan : Token.scan cs with
  | mk ts rest =>
      have hdue : Due .start ⟨cs, 0, .none⟩ ts rest := ⟨hscan, .inl rfl, rfl⟩
      obtain ⟨hsees, hstand, hposition⟩ := hdue
      rcases Token.dice_cases ts with ⟨d, us, rfl, hend⟩ | ⟨o, us, rfl, hnone⟩ |
        ⟨n, us, rfl, hdie⟩ | ⟨hnumber, hdie⟩
      · obtain ⟨a, hdice, ha⟩ := Matcher.dice_ok hsees hend hstand
        obtain ⟨o, c', htimes, -, hproceeds⟩ :=
          (unclosed_dice hsees hend hposition ha).exists_suffix
        obtain ⟨ts, last, hmany, hends⟩ := hproceeds.exists_ends (Nat.lt_succ_self _)
        have hterm := Matcher.term_ok hdice htimes
        have hall := run_append (run_dice .start d) us
        cases hends with
        | finished hahead hrest hlast hF =>
            have hformula := Matcher.formula_ok hterm hmany hahead
            rw [hrest] at hscan
            simp only [read, hformula, readTokens, hscan, hall, hlast, hF]
            rfl
        | stopped hahead hlast hstop hdigits hattempts =>
            have hformula := Matcher.formula_unfinished hterm hmany hahead hattempts
              (position_pos_of_run hlast)
            rw [readTokens_of_run hscan (hall.trans hlast) hstop hdigits]
            simp only [read, hformula]
      · obtain ⟨hrun, hdice, hlt⟩ := Due.stops_at_die ⟨hsees, hstand, hposition⟩ hnone
        have hformula := Matcher.formula_error hdice fun r =>
          Attempts.note_of_lt (Nat.lt_of_le_of_lt (Nat.zero_le _) hlt)
        rw [readTokens_of_run hscan hrun (.inl rfl) (by simp)]
        simp only [read, hformula]
      · have hformula := Matcher.formula_error (Matcher.dice_without_die hsees hdie hstand)
          fun r => rfl
        have hrun : (opened .start).run (.number n :: us) = (digits .start n, us) := by
          refine (run_cons rfl us).trans (run_stop fun t vs heq => ?_)
          cases t with
          | die => exact absurd heq (hdie vs)
          | number | mark | times | sign => rfl
        -- Where a dice term fails behind its count, it is asked for as where it has not begun.
        have hsame : Attempts.error ⟨0, [.dice]⟩ cs = (opened .start).error cs :=
          error_attempts (r := opened .start) rfl
        simp only [read, hformula, hsame, readTokens, hscan, hrun]
        cases us <;> cases rest <;> rfl
      · have hformula := Matcher.formula_error (Matcher.dice_elsewhere hsees hnumber hdie hstand)
          fun r => rfl
        rw [readTokens_of_run hscan (run_opened_stop .start hnumber hdie) (.inl rfl) (by simp)]
        simp only [read, hformula]
        rfl

theorem read_text (F : Formula) : read F.text = .ok F := by
  rw [read_eq_readTokens, readTokens_text]

theorem text_of_read {cs : List Char} {F : Formula} (h : read cs = .ok F) : F.text = cs :=
  text_of_readTokens (read_eq_readTokens cs ▸ h)

/-- A text is read as a formula exactly when it is that formula's text. -/
theorem read_eq_ok_iff {cs : List Char} {F : Formula} : read cs = .ok F ↔ F.text = cs := by
  constructor
  · exact text_of_read
  · rintro rfl
    exact read_text F

end Formula

end DiceNotation
