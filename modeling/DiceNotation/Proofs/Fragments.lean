import DiceNotation.Proofs.UnfitNumbers

/-! # What an error quotes

An error names a position and quotes the text from there on. Of a malformed text
it quotes all the rest. Of a well-formed one it quotes no more than the number
that does not fit, or its suffix, so something is missing whenever the text goes
on behind that.
-/

namespace DiceNotation

namespace ParseError

/-- The error quotes all that follows its position. -/
def QuotesRest (e : ParseError) (cs : List Char) : Prop :=
  ∃ pre, pre ++ e.fragment.toList = cs ∧ (String.ofList pre).utf8ByteSize = e.position

/-- The error quotes a piece of the text between what stands before and behind it. -/
inductive Quotes (cs : List Char) : ParseError → (pre post : List Char) → Prop where
  /-- A malformed text, from where it goes on in a way that it cannot. -/
  | input {es pre rest} : pre ++ rest = cs → rest ≠ [] →
      Quotes cs ⟨.unexpectedInput es, String.ofList rest, (String.ofList pre).utf8ByteSize⟩ pre []
  /-- A text that ends too early: nothing is left of it. -/
  | finish {es} : Quotes cs ⟨.unexpectedEnd es, "", (String.ofList cs).utf8ByteSize⟩ cs []
  | tooLarge {pre n post} : DigitRun cs pre n post → wordCount ≤ n.value →
      Quotes cs ⟨.numberTooLarge, String.ofList n.chars, (String.ofList pre).utf8ByteSize⟩ pre post
  | zero {pre n post} : DigitRun cs (pre ++ ['x']) n post → n.value = 0 →
      Quotes cs ⟨.zeroRepetitions, String.ofList ('x' :: n.chars),
        (String.ofList pre).utf8ByteSize⟩ pre post
  | tooMany {pre n post} : DigitRun cs (pre ++ ['x']) n post →
      maxRepetitions < n.value → n.value < wordCount →
      Quotes cs ⟨.tooManyRepetitions, String.ofList ('x' :: n.chars),
        (String.ofList pre).utf8ByteSize⟩ pre post

namespace Quotes

variable {cs pre post : List Char} {e : ParseError}

theorem text_eq (h : e.Quotes cs pre post) : pre ++ e.fragment.toList ++ post = cs := by
  cases h with
  | input htext _ => simpa using htext
  | finish => simp
  | tooLarge hrun _ => simpa using hrun.text_eq
  | zero hrun _ => simpa using hrun.text_eq
  | tooMany hrun _ _ => simpa using hrun.text_eq

theorem position_eq (h : e.Quotes cs pre post) :
    e.position = (String.ofList pre).utf8ByteSize := by
  cases h <;> rfl

theorem post_eq_nil (h : e.Quotes cs pre post) (hnone : e.fragment = "") : post = [] := by
  cases h with
  | input | finish => rfl
  | @tooLarge _ n _ _ _ => exact absurd (by simpa using hnone) n.nonempty
  | zero _ _ | tooMany _ _ _ => simp at hnone

theorem size_eq (h : e.Quotes cs pre post) :
    (String.ofList cs).utf8ByteSize =
      e.position + e.fragment.utf8ByteSize + (String.ofList post).utf8ByteSize := by
  rw [← h.text_eq, h.position_eq, String.ofList_append, String.ofList_append,
    String.utf8ByteSize_append, String.utf8ByteSize_append, String.ofList_toList]

theorem quotesRest_iff (h : e.Quotes cs pre post) : e.QuotesRest cs ↔ post = [] := by
  constructor
  · rintro ⟨before, htext, hposition⟩
    have hsize : (String.ofList cs).utf8ByteSize = e.position + e.fragment.utf8ByteSize := by
      rw [← htext, ← hposition, String.ofList_append, String.utf8ByteSize_append,
        String.ofList_toList]
    have hpost : (String.ofList post).utf8ByteSize = 0 := by
      have hall := h.size_eq
      omega
    simpa using hpost
  · rintro rfl
    exact ⟨pre, by simpa using h.text_eq, h.position_eq.symm⟩

theorem fragment_eq_empty_iff (h : e.Quotes cs pre post) :
    e.fragment = "" ↔ e.position = (String.ofList cs).utf8ByteSize := by
  have hsize := h.size_eq
  constructor
  · intro hnone
    rw [hnone, h.post_eq_nil hnone] at hsize
    simpa using hsize.symm
  · intro hend
    have hfragment : e.fragment.utf8ByteSize = 0 := by omega
    simpa using hfragment

end Quotes

end ParseError

theorem Reading.quotes_error {r : Reading} {cs left : List Char}
    (h : Token.text r.tokens ++ left = cs) :
    (r.error left).Quotes cs (Token.text r.tokens) [] := by
  have hposition := Token.utf8ByteSize_text r.tokens
  cases left with
  | nil =>
      obtain rfl : Token.text r.tokens = cs := by simpa using h
      rw [Reading.error, ← hposition]
      exact .finish
  | cons c left =>
      rw [Reading.error, ← hposition]
      exact .input h (List.cons_ne_nil c left)

namespace Digits

/-- The error comes from the check of this number behind these tokens, by itself or as the number of
a suffix. -/
def RefusedBehind (n : Digits) (ts : List Token) (e : ParseError) : Prop :=
  n.fault? (Token.text ts).length = some e ∨
    ∃ before, ts = before ++ [.times] ∧ n.timesFault? (Token.text before).length = some e

variable {n : Digits} {cs post : List Char} {ts : List Token} {e : ParseError}

theorem quotes_of_fault? (h : n.fault? (Token.text ts).length = some e)
    (hrun : DigitRun cs (Token.text ts) n post) : e.Quotes cs (Token.text ts) post := by
  unfold fault? at h
  split at h
  · cases h
  · rename_i hlarge
    cases h
    rw [← Token.utf8ByteSize_text]
    exact .tooLarge hrun (Nat.le_of_not_lt hlarge)

theorem quotes_of_timesFault? (h : n.timesFault? (Token.text ts).length = some e)
    (hrun : DigitRun cs (Token.text ts ++ ['x']) n post) : ∃ pre, e.Quotes cs pre post := by
  have hx : Token.text (ts ++ [.times]) = Token.text ts ++ ['x'] := Token.text_append ts [.times]
  rcases Option.or_eq_some_iff.mp h with hlarge | ⟨hword, hbounds⟩
  · rw [← hx] at hrun
    refine ⟨_, quotes_of_fault? ?_ hrun⟩
    rwa [hx, List.length_append]
  · have hfits := fault?_eq_none_iff.mp hword
    rw [← Token.utf8ByteSize_text] at hbounds
    split at hbounds
    · rename_i hzero
      cases hbounds
      exact ⟨_, .zero hrun hzero⟩
    · split at hbounds
      · rename_i hmany
        cases hbounds
        exact ⟨_, .tooMany hrun hmany hfits⟩
      · cases hbounds

theorem RefusedBehind.quotes (h : n.RefusedBehind ts e)
    (hrun : DigitRun cs (Token.text ts) n post) : ∃ pre, e.Quotes cs pre post := by
  rcases h with hword | ⟨before, rfl, htimes⟩
  · exact ⟨_, quotes_of_fault? hword hrun⟩
  · rw [Token.text_append] at hrun
    exact quotes_of_timesFault? htimes hrun

end Digits

theorem Token.exists_refused {p : Nat} {done ts : List Token} {e : ParseError}
    (hp : p = (text done).length) (h : fault? p ts = some e) :
    ∃ before n after, ts = before ++ .number n :: after ∧ n.RefusedBehind (done ++ before) e := by
  fun_induction fault? p ts generalizing done with
  | case1 p => cases h
  | case2 p n ts ih =>
      rcases Option.or_eq_some_iff.mp h with hfirst | ⟨-, hlater⟩
      · rw [hp] at hfirst
        exact ⟨[.times], n, ts, rfl, .inr ⟨done, rfl, hfirst⟩⟩
      · have hwidth : p + 1 + n.width = (text (done ++ [.times, .number n])).length := by
          simp [hp, chars, Digits.width, Nat.add_assoc, Nat.add_comm]
        obtain ⟨before, m, after, rfl, hm⟩ := ih hwidth hlater
        refine ⟨.times :: .number n :: before, m, after, rfl, ?_⟩
        rwa [List.append_assoc] at hm
  | case3 p n ts ih =>
      rcases Option.or_eq_some_iff.mp h with hfirst | ⟨-, hlater⟩
      · rw [hp] at hfirst
        exact ⟨[], n, ts, rfl, .inl (by rwa [List.append_nil])⟩
      · have hwidth : p + n.width = (text (done ++ [.number n])).length := by
          simp [hp, chars, Digits.width]
        obtain ⟨before, m, after, rfl, hm⟩ := ih hwidth hlater
        refine ⟨.number n :: before, m, after, rfl, ?_⟩
        rwa [List.append_assoc] at hm
  | case4 p t ts _ _ ih =>
      have hwidth : p + t.width = (text (done ++ [t])).length := by
        simp [hp, width]
      obtain ⟨before, m, after, rfl, hm⟩ := ih hwidth h
      refine ⟨t :: before, m, after, rfl, ?_⟩
      rwa [List.append_assoc] at hm

theorem Formula.quotes_of_fault? {F : Formula} {e : ParseError}
    (h : Token.fault? 0 F.tokens = some e) : ∃ pre post, e.Quotes F.text pre post := by
  have hstart : 0 = (Token.text []).length := rfl
  obtain ⟨before, n, after, htokens, hrefused⟩ := Token.exists_refused hstart h
  have hrun : DigitRun F.text (Token.text before) n (Token.text after) := by
    have hseparated := F.separated_tokens
    rw [htokens] at hseparated
    rw [Formula.text, htokens]
    exact hseparated.digitRun
  obtain ⟨pre, hquotes⟩ := hrefused.quotes hrun
  exact ⟨pre, _, hquotes⟩

theorem Formula.quotes_of_read {cs : List Char} {e : ParseError} (h : read cs = .error e) :
    ∃ pre, e.Quotes cs pre [] := by
  have hsentence : ∀ F : Formula, F.text ≠ cs := by
    intro F hF
    rw [read_eq_ok_iff.mpr hF] at h
    cases h
  cases hscan : Token.scan cs with
  | mk ts rest =>
      cases hrun : (Reading.opened .start).run ts with
      | mk r unread =>
          obtain ⟨q, left, hread, -, -, htext⟩ := read_eq_error hscan hrun hsentence
          obtain rfl := Except.error.inj (h.symm.trans hread)
          exact ⟨_, Reading.quotes_error htext⟩

/-- Whatever a text is refused for, the error quotes a piece of it that begins at the error's
position. That is all the rest if the text is malformed; a number that does not fit is quoted
alone, so the rest is quoted only if nothing follows. Nothing is quoted only where the text ends. -/
theorem parse_error_quotes (f : String) (e : ParseError) (h : parse f = .error e) :
    ∃ pre post, e.Quotes (strip f.toList) pre post ∧
      (e.QuotesRest (strip f.toList) ↔ post = []) ∧
      ((∀ F : Formula, F.text ≠ strip f.toList) → e.QuotesRest (strip f.toList)) ∧
      (e.fragment = "" ↔ e.position = (String.ofList (strip f.toList)).utf8ByteSize) := by
  obtain ⟨pre, post, hquotes, hmalformed⟩ : ∃ pre post, e.Quotes (strip f.toList) pre post ∧
      ((∀ F : Formula, F.text ≠ strip f.toList) → post = []) := by
    cases hread : Formula.read (strip f.toList) with
    | error e' =>
        rw [parse_of_read_error hread] at h
        cases h
        obtain ⟨pre, hquotes⟩ := Formula.quotes_of_read hread
        exact ⟨pre, [], hquotes, fun _ => rfl⟩
    | ok F =>
        have htext : F.text = strip f.toList := Formula.read_eq_ok_iff.mp hread
        rw [parse_of_read hread] at h
        cases hfault : Token.fault? 0 F.tokens with
        | none => simp [hfault] at h
        | some e' =>
            rw [hfault] at h
            cases h
            obtain ⟨pre, post, hquotes⟩ := Formula.quotes_of_fault? hfault
            rw [← htext]
            exact ⟨pre, post, hquotes, fun hnone => absurd rfl (hnone F)⟩
  exact ⟨pre, post, hquotes, hquotes.quotesRest_iff,
    fun hnone => hquotes.quotesRest_iff.mpr (hmalformed hnone), hquotes.fragment_eq_empty_iff⟩

/-- A number at the very end of the text: what is quoted of it is all the rest. -/
theorem parse_error_quotes_last :
    ∃ e, parse "d6x2 - 18446744073709551616" = .error e ∧
      e.fragment = "18446744073709551616" ∧ e.position = 5 ∧
      e.QuotesRest (strip "d6x2 - 18446744073709551616".toList) := by
  have h : parse "d6x2 - 18446744073709551616" =
      .error ⟨.numberTooLarge, "18446744073709551616", 5⟩ := by decide +kernel
  obtain ⟨pre, post, hquotes, hrest, -, -⟩ := parse_error_quotes _ _ h
  have hlength : (String.ofList (strip "d6x2 - 18446744073709551616".toList)).utf8ByteSize =
      5 + "18446744073709551616".utf8ByteSize := by rfl
  have hpost : (String.ofList post).utf8ByteSize = 0 := by
    have hsize := hquotes.size_eq
    rw [hlength] at hsize
    exact Nat.left_eq_add.mp hsize
  exact ⟨_, h, rfl, rfl, hrest.mpr (by simpa using hpost)⟩

/-- A suffix in the middle of the text is quoted without the term behind it. -/
theorem parse_error_quotes_suffix_only :
    ∃ e, parse "d6x0+1" = .error e ∧ e.fragment = "x0" ∧ e.position = 2 ∧
      ¬ e.QuotesRest (strip "d6x0+1".toList) := by
  have h : parse "d6x0+1" = .error ⟨.zeroRepetitions, "x0", 2⟩ := by decide +kernel
  refine ⟨_, h, rfl, rfl, ?_⟩
  rintro ⟨pre, htext, -⟩
  have hstrip : strip "d6x0+1".toList = ['d', '6', 'x', '0', '+', '1'] := by rfl
  rw [hstrip] at htext
  have hlast := congrArg List.getLast? htext
  simp at hlast

end DiceNotation
