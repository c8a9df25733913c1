import DiceNotation.Proofs.Sentences

/-! # Beginnings of formulas

How far a text can be read as a formula: its longest beginning that consists of
whole tokens and that some formula shares. Scanning takes every token that the
text starts with, and each state of the reading automaton can still be finished
to a formula, so the automaton stops exactly at the end of that beginning.
-/

namespace DiceNotation

namespace Token

/-- Whole tokens start a text, which goes on with a rest: no digit run is cut before its end. -/
inductive Starts : List Token → List Char → List Char → Prop where
  | nil {cs} : Starts [] cs cs
  | cons {t ts cs rest} : (t.IsNumber → ∀ c ∈ cs.head?, c.isDigit = false) → Starts ts cs rest →
      Starts (t :: ts) (t.chars ++ cs) rest

namespace Starts

theorem text_append {cs rest : List Char} {ts : List Token} (h : Starts ts cs rest) :
    text ts ++ rest = cs := by
  induction h with
  | nil => rfl
  | cons _ _ ih => rw [text_cons, List.append_assoc, ih]

theorem take {cs rest : List Char} {ts us : List Token} (h : Starts (ts ++ us) cs rest) :
    Starts ts cs (text us ++ rest) := by
  induction ts generalizing cs with
  | nil =>
      have htext : text us ++ rest = cs := h.text_append
      rw [htext]
      exact .nil
  | cons t ts ih =>
      cases h with
      | cons hend hstarts => exact .cons hend (ih hstarts)

end Starts

theorem ne_number_of_head {cs : List Char} (h : ∀ c ∈ cs.head?, c.isDigit = false) (m : Digits)
    (us : List Token) : (scan cs).1 ≠ .number m :: us := by
  intro heq
  have htext := text_scan cs
  rw [heq, text_cons, chars] at htext
  obtain ⟨c, ds, hm⟩ := List.exists_cons_of_ne_nil m.nonempty
  have hdigit : c.isDigit = true := m.all_digits c (by simp [hm])
  have hhead : cs.head? = some c := by
    rw [← htext, hm]
    rfl
  exact absurd hdigit (Bool.eq_false_iff.mp (h c hhead))

theorem head_of_ne_number {cs : List Char} (h : ∀ m us, (scan cs).1 ≠ .number m :: us) :
    ∀ c ∈ cs.head?, c.isDigit = false := by
  cases cs with
  | nil => simp
  | cons c cs =>
      intro d hd
      obtain rfl := Option.some.inj hd
      refine Bool.eq_false_iff.mpr ?_
      intro hdigit
      rw [scan_digit hdigit] at h
      unfold consDigit at h
      split at h
      · exact h _ _ rfl
      · exact h _ _ rfl

theorem starts_consDigit {c : Char} (h : c.isDigit = true) {cs rest : List Char} {ts : List Token}
    (hscan : scan cs = (ts, rest)) (hstarts : Starts ts cs rest) :
    Starts (consDigit c h ts) (c :: cs) rest := by
  unfold consDigit
  split
  · rename_i n us
    cases hstarts with
    | cons hend hus => exact .cons (t := .number (n.cons c h)) hend hus
  · rename_i hne
    refine .cons (t := .number (Digits.single c h)) (fun _ => head_of_ne_number ?_) hstarts
    rwa [hscan]

theorem starts_of_scan {cs rest : List Char} {ts : List Token} (h : scan cs = (ts, rest)) :
    Starts ts cs rest := by
  fun_induction scan cs generalizing ts rest with
  | case1 | case10 =>
      cases h
      exact .nil
  | case2 | case3 | case4 | case5 | case6 | case7 | case8 =>
      rename_i heq ih
      cases h
      exact .cons False.elim (ih heq)
  | case9 c cs _ _ _ _ _ _ _ hdigit _ _ heq ih =>
      cases h
      exact starts_consDigit hdigit heq (ih heq)

/-- Scanning takes all the whole tokens that a text starts with. -/
theorem prefix_scan {cs rest : List Char} {ts : List Token} (h : Starts ts cs rest) :
    ts <+: (scan cs).1 := by
  induction h with
  | nil => exact List.nil_prefix
  | cons hend hstarts ih =>
      rw [scan_chars_append _ rfl fun ht => ne_number_of_head (hend ht)]
      exact List.cons_prefix_cons.mpr ⟨rfl, ih⟩

end Token

namespace Reading

/-- A formula that goes on from a reading; a number that is missing is a one. -/
def finish : Reading → Formula
  | .opened .start => ⟨⟨none, one, none⟩, none, []⟩
  | .opened (.signed F s) => F.push ⟨s, .constant one, none⟩
  | .digits .start n => ⟨⟨some n, one, none⟩, none, []⟩
  | .digits (.signed F s) n => F.push ⟨s, .constant n, none⟩
  | .die opening count => (opening.dice ⟨count, one, none⟩).close none
  | .dice opening d => (opening.dice d).close none
  | .times stem => stem.close (some one)
  | .closed F => F
where
  one : Digits := Digits.ofNat 1

theorem tokens_prefix_finish (r : Reading) : r.tokens <+: r.finish.tokens := by
  cases r with
  | opened opening =>
      cases opening with
      | start => exact List.nil_prefix
      | signed F s =>
          refine ⟨[.number finish.one], ?_⟩
          simp [finish, tokens, Opening.tokens, Summand.tokens, Operand.tokens, timesTokens]
  | digits opening n =>
      cases opening with
      | start =>
          refine ⟨[.die, .number finish.one], ?_⟩
          simp [finish, tokens, Opening.tokens, Formula.tokens_lead, DiceText.tokens,
            numberTokens, modifierTokens, timesTokens]
      | signed F s =>
          refine ⟨[], ?_⟩
          simp [finish, tokens, Opening.tokens, Summand.tokens, Operand.tokens, timesTokens]
  | die opening count =>
      refine ⟨[.number finish.one], ?_⟩
      simp [finish, tokens, DiceText.tokens, modifierTokens, timesTokens]
  | dice opening d =>
      refine ⟨[], ?_⟩
      simp [finish, tokens, timesTokens]
  | times stem =>
      refine ⟨[.number finish.one], ?_⟩
      simp [finish, tokens, timesTokens]
  | closed F => exact List.prefix_rfl

theorem tokens_prefix_run (r : Reading) (ts : List Token) : r.tokens <+: (r.run ts).1.tokens := by
  induction ts generalizing r with
  | nil => exact List.prefix_rfl
  | cons t ts ih =>
      unfold run
      split
      · rename_i q hq
        have hstep : r.tokens <+: q.tokens := by
          rw [tokens_step hq]
          exact List.prefix_append _ _
        exact hstep.trans (ih q)
      · exact List.prefix_rfl

theorem exists_run_of_append {r r' : Reading} {ts us : List Token}
    (h : r.run (ts ++ us) = (r', [])) : ∃ q, r.run ts = (q, []) := by
  induction ts generalizing r with
  | nil => exact ⟨r, rfl⟩
  | cons t ts ih =>
      obtain ⟨q, hq, hrun⟩ := exists_step_of_run h
      rw [run_cons hq]
      exact ih hrun

end Reading

namespace Formula

/-- The tokens can be continued to those of a formula. -/
def Viable (ts : List Token) : Prop := ∃ F : Formula, ts <+: F.tokens

/-- The longest beginning of a text that consists of whole tokens and that a formula shares. -/
structure LongestViable (cs : List Char) (ts : List Token) (rest : List Char) : Prop where
  starts : Token.Starts ts cs rest
  viable : Viable ts
  longest : ∀ us rest', Token.Starts us cs rest' → Viable us → us <+: ts

theorem viable_tokens (r : Reading) : Viable r.tokens := ⟨r.finish, r.tokens_prefix_finish⟩

theorem Viable.exists_run {ts : List Token} (h : Viable ts) :
    ∃ r, (Reading.opened .start).run ts = (r, []) ∧ r.tokens = ts := by
  obtain ⟨F, us, hF⟩ := h
  obtain ⟨r, hrun, -⟩ := Reading.run_tokens F
  rw [← hF] at hrun
  obtain ⟨q, hq⟩ := Reading.exists_run_of_append hrun
  have htokens := Reading.tokens_run (.opened .start) ts
  rw [hq, List.append_nil] at htokens
  exact ⟨q, hq, htokens⟩

/-- Reading stops at the end of the longest viable beginning. -/
theorem longestViable_run {cs rest : List Char} {ts unread : List Token} {r : Reading}
    (hscan : Token.scan cs = (ts, rest)) (hrun : (Reading.opened .start).run ts = (r, unread)) :
    LongestViable cs r.tokens (Token.text unread ++ rest) where
  starts := by
    have htokens : r.tokens ++ unread = ts := by
      have hall := Reading.tokens_run (.opened .start) ts
      rw [hrun] at hall
      exact hall
    refine Token.Starts.take ?_
    rw [htokens]
    exact Token.starts_of_scan hscan
  viable := viable_tokens r
  longest := by
    intro us rest' hstarts hviable
    obtain ⟨vs, hvs⟩ := Token.prefix_scan hstarts
    obtain ⟨q, hq, rfl⟩ := hviable.exists_run
    rw [hscan] at hvs
    have hrest := Reading.run_append hq vs
    rw [hvs, hrun] at hrest
    have hprefix := q.tokens_prefix_run vs
    rwa [← hrest] at hprefix

end Formula

end DiceNotation
