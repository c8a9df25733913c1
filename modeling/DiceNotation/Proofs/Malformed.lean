import DiceNotation.Proofs.Numbers

/-! # Malformed texts

A text that is no formula's is refused at the end of its longest viable
beginning, whatever the numbers in it. What could have followed there is decided
by the last one or two tokens read; only leading digits without a `d` behind
them are taken back, so that a dice term is asked for in their place.
-/

namespace DiceNotation

namespace Token

/-- Leading digits that no `d` follows do not count as read. -/
def settled : List Token → List Token
  | [.number _] => []
  | ts => ts

/-- What may follow the tokens that a formula begins with, by the last one or two of them. -/
def alternatives (ts : List Token) : String :=
  match ts.reverse with
  | .sign _ :: _ => "dice term or constant"
  | .die :: _ => "number of faces"
  | .number _ :: .die :: _ => "end of formula or `!` or `kh` or `kl` or `x` suffix or term"
  | .mark _ :: _ => "end of formula or number or `x` suffix or term"
  | .number _ :: .mark _ :: _ => "end of formula or `x` suffix or term"
  | .number _ :: .sign _ :: _ => "end of formula or `x` suffix or term"
  | .times :: _ => "number"
  | .number _ :: .times :: _ => "end of formula or term"
  | _ => "dice term"

theorem settled_of_mem {ts : List Token} {t : Token} (hmem : t ∈ ts) (ht : ¬ t.IsNumber) :
    settled ts = ts := by
  unfold settled
  split
  · obtain rfl := List.mem_singleton.mp hmem
    exact absurd trivial ht
  · rfl

end Token

namespace Reading

theorem run_invariant {P : Reading → Prop} (hstep : ∀ q q' t, P q → q.step t = some q' → P q')
    {r : Reading} (h : P r) (ts : List Token) : P (r.run ts).1 := by
  induction ts generalizing r with
  | nil => exact h
  | cons t ts ih =>
      unfold run
      split
      · rename_i q hq
        exact ih (hstep r q t h hq)
      · exact h

/-- What may follow is said of the tokens read. -/
def Expects (r : Reading) : Prop :=
  Expectation.list r.expected = ", expected " ++ Token.alternatives r.tokens

theorem expects_start : (opened .start).Expects := rfl

theorem expects_step {r r' : Reading} {t : Token} (h : r.step t = some r') : r'.Expects := by
  unfold Expects
  rw [tokens_step h, Token.alternatives, List.reverse_append]
  -- With the last two tokens in sight both sides are literals, whatever was read before them.
  unfold step at h
  split at h
  case h_10 =>
    obtain ⟨F, hF, rfl⟩ := Option.map_eq_some_iff.mp h
    rfl
  case h_11 => cases h
  all_goals cases h
  case h_1 opening n =>
    cases opening with
    | start => rfl
    | signed F s =>
        simp only [tokens, Opening.tokens, List.reverse_append]
        rfl
  all_goals
    simp only [tokens, DiceText.tokens, modifierTokens, ModifierText.tokens, numberTokens,
      List.reverse_append, List.reverse_cons]
    rfl

theorem expects_run {ts unread : List Token} {r : Reading}
    (h : (opened .start).run ts = (r, unread)) : r.Expects := by
  have hall := run_invariant (fun _ _ _ _ => expects_step) expects_start ts
  rwa [h] at hall

theorem settled_tokens {r : Reading} (h : ∀ n, r ≠ .digits .start n) :
    Token.settled r.tokens = r.tokens := by
  have hsigned (F : Formula) (s : Sign) (ts : List Token) :
      Token.settled ((Opening.signed F s).tokens ++ ts) = (Opening.signed F s).tokens ++ ts :=
    Token.settled_of_mem (t := .sign s) (by simp [Opening.tokens]) id
  cases r with
  | opened opening =>
      cases opening with
      | start => rfl
      | signed F s => simpa [tokens] using hsigned F s []
  | digits opening n =>
      cases opening with
      | start => exact absurd rfl (h n)
      | signed F s => exact hsigned F s [.number n]
  | die opening count => exact Token.settled_of_mem (t := .die) (by simp [tokens]) id
  | dice opening d =>
      exact Token.settled_of_mem (t := .die) (by simp [tokens, DiceText.tokens]) id
  | times stem => exact Token.settled_of_mem (t := .times) (by simp [tokens]) id
  | closed F =>
      refine Token.settled_of_mem (t := .die) ?_ id
      simp [tokens, Formula.tokens, DiceText.tokens]

theorem message_error {r : Reading} (h : r.Expects) (rest : List Char) :
    (r.error rest).fault.message =
      (if rest = [] then "unexpected end of formula" else "unexpected input") ++
        ", expected " ++ Token.alternatives r.tokens := by
  rw [String.append_assoc, ← h]
  cases rest <;> rfl

end Reading

namespace Formula

theorem read_eq_error {cs rest : List Char} {ts unread : List Token} {r : Reading}
    (hscan : Token.scan cs = (ts, rest)) (hrun : (Reading.opened .start).run ts = (r, unread))
    (h : ∀ F : Formula, F.text ≠ cs) :
    ∃ q left, read cs = .error (Reading.error q left) ∧ q.Expects ∧
      q.tokens = Token.settled r.tokens ∧ Token.text q.tokens ++ left = cs := by
  cases hread : read cs with
  | ok F => exact absurd (text_of_read hread) (h F)
  | error e =>
      rw [read_eq_readTokens] at hread
      simp only [readTokens, hscan, hrun] at hread
      split at hread
      · cases hread
      · cases hread
        exact ⟨.opened .start, cs, rfl, Reading.expects_start, rfl, rfl⟩
      · rename_i hdigits _
        cases hread
        exact ⟨_, _, rfl, Reading.expects_run hrun, (Reading.settled_tokens hdigits).symm,
          (longestViable_run hscan hrun).starts.text_append⟩

end Formula

/-- A text that is no formula's is refused, even if numbers in it are too large. The position is the
end of its longest beginning that consists of whole tokens and that a formula shares, without
leading digits that stand alone; the message says what may follow the last token there. -/
theorem parse_malformed (f : String) (h : ∀ F : Formula, F.text ≠ strip f.toList) :
    ∃ ts rest e, Formula.LongestViable (strip f.toList) ts rest ∧ parse f = .error e ∧
      e.position = (String.ofList (Token.text (Token.settled ts))).utf8ByteSize ∧
      (⟨e.position⟩ : String.Pos.Raw).IsValid (String.ofList (strip f.toList)) ∧
      e.fault.message =
        (if e.position = (String.ofList (strip f.toList)).utf8ByteSize
          then "unexpected end of formula" else "unexpected input") ++
        ", expected " ++ Token.alternatives (Token.settled ts) := by
  cases hscan : Token.scan (strip f.toList) with
  | mk ts rest =>
      cases hrun : (Reading.opened .start).run ts with
      | mk r unread =>
          obtain ⟨q, left, hread, hexpects, htokens, htext⟩ := Formula.read_eq_error hscan hrun h
          have hposition : (q.error left).position =
              (String.ofList (Token.text (Token.settled r.tokens))).utf8ByteSize := by
            rw [Token.utf8ByteSize_text, ← htokens]
            rfl
          refine ⟨r.tokens, _, q.error left, Formula.longestViable_run hscan hrun, ?_, hposition,
            ?_, ?_⟩
          · exact parse_of_read_error hread
          · rw [hposition, ← htext, String.ofList_append, htokens]
            exact String.Pos.Raw.isValid_rawEndPos.append_right _
          · have hend : (q.error left).position = (String.ofList (strip f.toList)).utf8ByteSize ↔
                left = [] := by
              rw [hposition, ← htext, String.ofList_append, htokens, String.utf8ByteSize_append]
              simp
            rw [Reading.message_error hexpects, htokens]
            simp only [hend]

/-- The text fails at its last character, though its first number is too large as well. -/
theorem parse_malformed_constant :
    ∃ ts rest, Formula.LongestViable (strip "18446744073709551616d6 + 5 é".toList) ts rest ∧
      parse "18446744073709551616d6 + 5 é" =
        .error ⟨.unexpectedInput [.finish, .times, .term], "é", 24⟩ ∧
      (String.ofList (Token.text (Token.settled ts))).utf8ByteSize = 24 ∧
      "unexpected input, expected " ++ Token.alternatives (Token.settled ts) =
        "unexpected input, expected end of formula or `x` suffix or term" := by
  have hread : Formula.read (strip "18446744073709551616d6 + 5 é".toList) =
      .error ⟨.unexpectedInput [.finish, .times, .term], "é", 24⟩ := by decide +kernel
  have hparse : parse "18446744073709551616d6 + 5 é" =
      .error ⟨.unexpectedInput [.finish, .times, .term], "é", 24⟩ := parse_of_read_error hread
  have hsentence : ∀ F : Formula, F.text ≠ strip "18446744073709551616d6 + 5 é".toList := by
    intro F hF
    rw [Formula.read_eq_ok_iff.mpr hF] at hread
    cases hread
  obtain ⟨ts, rest, e, hlongest, he, hposition, -, hmessage⟩ :=
    parse_malformed "18446744073709551616d6 + 5 é" hsentence
  obtain rfl := Except.error.inj (he.symm.trans hparse)
  exact ⟨ts, rest, hlongest, hparse, hposition.symm, hmessage.symm⟩

end DiceNotation
