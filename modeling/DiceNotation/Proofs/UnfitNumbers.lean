import DiceNotation.Proofs.Malformed
import DiceNotation.Proofs.NormalForm

/-! # Numbers that do not fit

A well-formed text can still have numbers that no word holds, and suffixes that
are zero or above the limit. It is refused for the first of them in the text,
wherever that stands: in front of a `d`, behind it, in a modifier, as a constant,
or in a suffix that a later one overrides. Digit runs are found in the text alone;
the check goes from token to token and knows as much of the text as it has passed.
-/

namespace DiceNotation

/-- A digit run of a text, taken as long as it is, between what stands before and behind it. -/
structure DigitRun (cs pre : List Char) (n : Digits) (post : List Char) : Prop where
  text_eq : pre ++ n.chars ++ post = cs
  begins : ∀ c ∈ pre.getLast?, c.isDigit = false
  ends : ∀ c ∈ post.head?, c.isDigit = false

namespace Digits

/-- Behind this text the run does not fit: no word holds its number, or it is the number of a
repetition suffix and zero or above the limit. -/
def Unfit (n : Digits) (pre : List Char) : Prop :=
  wordCount ≤ n.value ∨ pre.getLast? = some 'x' ∧ (n.value = 0 ∨ maxRepetitions < n.value)

/-- What is said about a run that does not fit: a message, and the byte at which the run begins or
the `x` in front of it stands. -/
inductive Blamed (n : Digits) :
    (pre : List Char) → (message : String) → (position : Nat) → Prop where
  | tooLarge {pre} : wordCount ≤ n.value →
      Blamed n pre "number too large" (String.ofList pre).utf8ByteSize
  | zero {before} : n.value = 0 →
      Blamed n (before ++ ['x']) "cannot repeat a roll zero times"
        (String.ofList before).utf8ByteSize
  | tooMany {before} : maxRepetitions < n.value → n.value < wordCount →
      Blamed n (before ++ ['x']) "exceeded max allowed batch count `100`"
        (String.ofList before).utf8ByteSize

theorem Blamed.unfit {n : Digits} {pre : List Char} {message : String} {position : Nat}
    (h : n.Blamed pre message position) : n.Unfit pre := by
  cases h with
  | tooLarge hlarge => exact .inl hlarge
  | zero hzero => exact .inr ⟨List.getLast?_concat, .inl hzero⟩
  | tooMany hmany _ => exact .inr ⟨List.getLast?_concat, .inr hmany⟩

theorem Fits.not_unfit {n : Digits} {pre : List Char} (h : n.Fits)
    (hpre : pre.getLast? ≠ some 'x') : ¬ n.Unfit pre := by
  rintro (hlarge | ⟨hx, -⟩)
  · exact absurd h (Nat.not_lt.mpr hlarge)
  · exact hpre hx

theorem Repeats.not_unfit {n : Digits} {pre : List Char} (h : n.Repeats) : ¬ n.Unfit pre := by
  obtain ⟨hmin, hmax⟩ := id h
  rintro (hlarge | ⟨-, hzero | hmany⟩)
  · exact absurd h.fits (Nat.not_lt.mpr hlarge)
  · omega
  · omega

theorem blamed_of_fault? {n : Digits} {ts : List Token} {e : ParseError}
    (h : n.fault? (Token.text ts).length = some e) :
    n.Blamed (Token.text ts) e.fault.message e.position := by
  unfold fault? at h
  split at h
  · cases h
  · rename_i hlarge
    cases h
    dsimp only
    rw [← Token.utf8ByteSize_text]
    exact .tooLarge (Nat.le_of_not_lt hlarge)

theorem blamed_of_timesFault? {n : Digits} {ts : List Token} {e : ParseError}
    (h : n.timesFault? (Token.text ts).length = some e) :
    n.Blamed (Token.text ts ++ ['x']) e.fault.message e.position := by
  have hx : Token.text (ts ++ [.times]) = Token.text ts ++ ['x'] := Token.text_append ts [.times]
  rcases Option.or_eq_some_iff.mp h with hlarge | ⟨hword, hbounds⟩
  · rw [← hx]
    apply blamed_of_fault?
    rw [hx, List.length_append]
    exact hlarge
  · have hfits := fault?_eq_none_iff.mp hword
    split at hbounds
    · rename_i hzero
      cases hbounds
      dsimp only
      rw [← Token.utf8ByteSize_text]
      exact .zero hzero
    · split at hbounds
      · rename_i hmany
        cases hbounds
        dsimp only
        rw [← Token.utf8ByteSize_text]
        exact .tooMany hmany hfits
      · cases hbounds

end Digits

namespace Token

/-- Of the numbers that do not fit among the tokens behind `done`, the first one is this. -/
structure FirstUnfit (done ts before : List Token) (n : Digits) (after : List Token) : Prop where
  tokens_eq : ts = before ++ .number n :: after
  unfit : n.Unfit (text (done ++ before))
  first : ∀ b m a, ts = b ++ .number m :: a → m.Unfit (text (done ++ b)) → before <+: b

/-- All numbers among the tokens behind `done` fit. -/
def AllFit (done ts : List Token) : Prop :=
  ∀ b m a, ts = b ++ .number m :: a → ¬ m.Unfit (text (done ++ b))

theorem FirstUnfit.head {done ts : List Token} {n : Digits} (h : n.Unfit (text done)) :
    FirstUnfit done (.number n :: ts) [] n ts where
  tokens_eq := rfl
  unfit := by rwa [List.append_nil]
  first := fun _ _ _ _ _ => List.nil_prefix

theorem unfit_behind {done ts before after : List Token} {t : Token} {n : Digits}
    (ht : ∀ m, t = .number m → ¬ m.Unfit (text done)) (hts : t :: ts = before ++ .number n :: after)
    (hn : n.Unfit (text (done ++ before))) :
    ∃ later, before = t :: later ∧ ts = later ++ .number n :: after ∧
      n.Unfit (text (done ++ [t] ++ later)) := by
  rcases List.cons_eq_append_iff.mp hts with ⟨rfl, hnumber⟩ | ⟨later, rfl, hlater⟩
  · rw [List.append_nil] at hn
    exact absurd hn (ht n (List.cons.inj hnumber).1.symm)
  · rw [List.append_cons] at hn
    exact ⟨later, rfl, hlater, hn⟩

theorem FirstUnfit.cons {done ts before after : List Token} {t : Token} {n : Digits}
    (ht : ∀ m, t = .number m → ¬ m.Unfit (text done))
    (h : FirstUnfit (done ++ [t]) ts before n after) :
    FirstUnfit done (t :: ts) (t :: before) n after where
  tokens_eq := by rw [h.tokens_eq, List.cons_append]
  unfit := by
    rw [List.append_cons]
    exact h.unfit
  first := by
    intro b m a hb hm
    obtain ⟨later, rfl, hlater, hunfit⟩ := unfit_behind ht hb hm
    exact List.cons_prefix_cons.mpr ⟨rfl, h.first later m a hlater hunfit⟩

/-- A check of the numbers behind `done` is right: all of them fit, or the error is about the first
that does not. -/
def Settles (done ts : List Token) : Option ParseError → Prop
  | none => AllFit done ts
  | some e => ∃ before n after, FirstUnfit done ts before n after ∧
      n.Blamed (text (done ++ before)) e.fault.message e.position

theorem Settles.cons {done ts : List Token} {t : Token} {result : Option ParseError}
    (ht : ∀ m, t = .number m → ¬ m.Unfit (text done)) (h : Settles (done ++ [t]) ts result) :
    Settles done (t :: ts) result := by
  cases result with
  | none =>
      intro b m a hb hm
      obtain ⟨later, rfl, hlater, hunfit⟩ := unfit_behind ht hb hm
      exact h later m a hlater hunfit
  | some e =>
      obtain ⟨before, n, after, hfirst, hblamed⟩ := h
      rw [List.append_assoc] at hblamed
      exact ⟨t :: before, n, after, hfirst.cons ht, hblamed⟩

theorem Settles.number {done ts : List Token} {n : Digits} {check rest : Option ParseError}
    (herror : ∀ e, check = some e → n.Blamed (text done) e.fault.message e.position)
    (hfits : check = none → ¬ n.Unfit (text done))
    (hrest : Settles (done ++ [.number n]) ts rest) :
    Settles done (.number n :: ts) (check.or rest) := by
  cases check with
  | some e =>
      have hblamed := herror e rfl
      exact ⟨[], n, ts, .head hblamed.unfit, by rwa [List.append_nil]⟩
  | none =>
      rw [Option.none_or]
      exact Settles.cons (fun m hm => Token.number.inj hm ▸ hfits rfl) hrest

theorem getLast?_text_concat (ts : List Token) (t : Token) :
    (text (ts ++ [t])).getLast? = t.chars.getLast? := by
  rw [text_append, text_cons, text_nil, List.append_nil,
    List.getLast?_append_of_ne_nil _ t.chars_ne_nil]

theorem getLast?_text_concat_ne_x (ts : List Token) {t : Token} (ht : t ≠ .times) :
    (text (ts ++ [t])).getLast? ≠ some 'x' := by
  intro h
  rw [getLast?_text_concat] at h
  have hmem : 'x' ∈ text [t] := by simpa using List.mem_of_getLast? h
  exact ht (List.mem_singleton.mp (times_mem_of_mem_text hmem)).symm

/-- The numbers are checked in the order of the text. Of what comes before, the check has to know
whether an `x` does. -/
theorem settles_fault? {p : Nat} {done ts : List Token} (hp : p = (text done).length)
    (hdone : ∀ n us, ts = .number n :: us → (text done).getLast? ≠ some 'x') :
    Settles done ts (fault? p ts) := by
  fun_induction fault? p ts generalizing done with
  | case1 p =>
      intro b m a hb
      exact absurd hb (by simp)
  | case2 p n ts ih =>
      have hlater := getLast?_text_concat_ne_x (done ++ [.times]) (t := .number n) (by simp)
      have hwidth : p + 1 + n.width = (text (done ++ [.times] ++ [.number n])).length := by
        simp [hp, chars, Digits.width, Nat.add_assoc, Nat.add_comm]
      refine Settles.cons (by simp) (Settles.number ?_ ?_ (ih hwidth fun _ _ _ => hlater))
      · intro e he
        rw [hp] at he
        rw [text_append]
        exact Digits.blamed_of_timesFault? he
      · intro hnone
        exact (Digits.timesFault?_eq_none_iff.mp hnone).not_unfit
  | case3 p n ts ih =>
      have hlater := getLast?_text_concat_ne_x done (t := .number n) (by simp)
      have hwidth : p + n.width = (text (done ++ [.number n])).length := by
        simp [hp, chars, Digits.width]
      refine Settles.number ?_ ?_ (ih hwidth fun _ _ _ => hlater)
      · intro e he
        rw [hp] at he
        exact Digits.blamed_of_fault? he
      · intro hnone
        exact (Digits.fault?_eq_none_iff.mp hnone).not_unfit (hdone n ts rfl)
  | case4 p t ts htimes hnumber ih =>
      have hwidth : p + t.width = (text (done ++ [t])).length := by
        simp [hp, width]
      refine Settles.cons (fun m hm => (hnumber m hm).elim) (ih hwidth ?_)
      intro n us hts
      exact getLast?_text_concat_ne_x done fun ht => htimes n us ht hts

theorem exists_number_of_isDigit {t : Token} {c : Char} (h : c ∈ t.chars)
    (hc : c.isDigit = true) : ∃ n, t = .number n := by
  cases t with
  | number n => exact ⟨n, rfl⟩
  | die | times =>
      obtain rfl := List.mem_singleton.mp h
      exact absurd hc (by decide)
  | mark m =>
      cases m <;> simp [chars, Mark.chars] at h <;> rcases h with rfl | rfl <;>
        exact absurd hc (by decide)
  | sign s => cases s <;> simp [chars, Sign.char] at h <;> subst h <;> exact absurd hc (by decide)

theorem Separated.head_text {n : Digits} {ts : List Token} (h : Separated (.number n :: ts)) :
    ∀ c ∈ (text ts).head?, c.isDigit = false := by
  apply head_of_ne_number
  rw [scan_text h.tail]
  exact h.ne_number trivial

theorem Separated.digitRun {before after : List Token} {n : Digits}
    (h : Separated (before ++ .number n :: after)) :
    DigitRun (text (before ++ .number n :: after)) (text before) n (text after) := by
  obtain ⟨-, hrest, hseam⟩ := List.isChain_append.mp h
  constructor
  · rw [text_append, text_cons, chars, List.append_assoc]
  · rcases List.eq_nil_or_concat' before with rfl | ⟨init, t, rfl⟩
    · simp
    · intro c hc
      rw [getLast?_text_concat] at hc
      refine Bool.eq_false_iff.mpr fun hdigit => ?_
      obtain ⟨m, rfl⟩ := exists_number_of_isDigit (List.mem_of_getLast? hc) hdigit
      exact hseam (.number m) (by simp) (.number n) rfl trivial trivial
  · exact Separated.head_text hrest

end Token

theorem DigitRun.eq_first {t : Token} {ts : List Token} {c : Char} {pre mid post : List Char}
    {n : Digits} (hts : Token.Separated (t :: ts))
    (h : DigitRun (Token.text (t :: ts)) pre n post) (hchars : t.chars = pre ++ c :: mid) :
    pre = [] ∧ t = .number n := by
  have hrest : n.chars ++ post = c :: (mid ++ Token.text ts) := by
    have htext := h.text_eq
    rw [Token.text_cons, hchars, List.append_assoc, List.append_assoc] at htext
    exact List.append_cancel_left htext
  have hdigit : c.isDigit = true := by
    obtain ⟨d, ds, hn⟩ := List.exists_cons_of_ne_nil n.nonempty
    rw [hn] at hrest
    obtain rfl := (List.cons.inj hrest).1
    exact n.all_digits d (by simp [hn])
  have hmem : c ∈ t.chars := by simp [hchars]
  obtain ⟨m, rfl⟩ := Token.exists_number_of_isDigit hmem hdigit
  rcases List.eq_nil_or_concat' pre with rfl | ⟨init, d, rfl⟩
  -- Both begin together, and both go on as far as there are digits.
  · have hsame : m.chars = n.chars := by
      rw [← m.takeWhile_isDigit hts.head_text, ← n.takeWhile_isDigit h.ends]
      exact congrArg (List.takeWhile Char.isDigit) h.text_eq.symm
    exact ⟨rfl, congrArg Token.number (Digits.ext hsame)⟩
  · have hbefore : d ∈ (Token.number m).chars := by simp [hchars]
    have hlast : d.isDigit = false := h.begins d (by simp)
    exact absurd (m.all_digits d hbefore) (Bool.eq_false_iff.mp hlast)

theorem DigitRun.exists_number {ts : List Token} {pre post : List Char} {n : Digits}
    (hts : Token.Separated ts) (h : DigitRun (Token.text ts) pre n post) :
    ∃ before after, ts = before ++ .number n :: after ∧ pre = Token.text before := by
  induction ts generalizing pre with
  | nil => exact absurd h.text_eq (by simp [n.nonempty])
  | cons t ts ih =>
      have hbehind : ∀ mid, pre = t.chars ++ mid → Token.text ts = mid ++ (n.chars ++ post) →
          ∃ before after, t :: ts = before ++ .number n :: after ∧ pre = Token.text before := by
        rintro mid rfl hrest
        have hmid : ∀ c ∈ mid.getLast?, c.isDigit = false := by
          intro c hc
          exact h.begins c (by simp_all)
        have hrun : DigitRun (Token.text ts) mid n post :=
          ⟨(List.append_assoc _ _ _).trans hrest.symm, hmid, h.ends⟩
        obtain ⟨before, after, rfl, rfl⟩ := ih hts.tail hrun
        exact ⟨t :: before, after, rfl, rfl⟩
      have htext : t.chars ++ Token.text ts = pre ++ (n.chars ++ post) := by
        rw [← List.append_assoc, h.text_eq, Token.text_cons]
      rcases List.append_eq_append_iff.mp htext with ⟨mid, hpre, hrest⟩ | ⟨mid, hchars, hrest⟩
      · exact hbehind mid hpre hrest
      · cases mid with
        | nil => exact hbehind [] (by simpa using hchars.symm) hrest.symm
        | cons c mid =>
            obtain ⟨rfl, rfl⟩ := h.eq_first hts hchars
            exact ⟨[], ts, rfl, rfl⟩

/-- A sentence of the grammar with a number that does not fit, overridden suffixes included, is
refused for the first such number in the text. No batch is returned, and the error has the message
and the position of that number. -/
theorem parse_unfit (f : String) (F : Formula) (hF : F.text = strip f.toList)
    (h : ∃ pre n post, DigitRun (strip f.toList) pre n post ∧ n.Unfit pre) :
    ∃ pre n post e, DigitRun (strip f.toList) pre n post ∧ n.Unfit pre ∧
      (∀ pre' n' post', DigitRun (strip f.toList) pre' n' post' → n'.Unfit pre' →
        pre.length ≤ pre'.length) ∧
      parse f = .error e ∧ n.Blamed pre e.fault.message e.position := by
  have hseparated := F.separated_tokens
  have hsettles : Token.Settles [] F.tokens (Token.fault? 0 F.tokens) :=
    Token.settles_fault? rfl (by simp)
  have hread := Formula.read_eq_ok_iff.mpr hF
  rw [← hF] at h ⊢
  cases hfault : Token.fault? 0 F.tokens with
  | none =>
      rw [hfault] at hsettles
      obtain ⟨pre, n, post, hrun, hunfit⟩ := h
      obtain ⟨before, after, htokens, rfl⟩ := hrun.exists_number hseparated
      exact absurd hunfit (hsettles before n after htokens)
  | some e =>
      rw [hfault] at hsettles
      obtain ⟨before, n, after, hfirst, hblamed⟩ := hsettles
      have hrun : DigitRun F.text (Token.text before) n (Token.text after) := by
        rw [Formula.text, hfirst.tokens_eq]
        exact Token.Separated.digitRun (hfirst.tokens_eq ▸ hseparated)
      refine ⟨Token.text before, n, Token.text after, e, hrun, hfirst.unfit, ?_, ?_, hblamed⟩
      · intro pre' n' post' hrun' hunfit'
        obtain ⟨b, a, htokens, rfl⟩ := hrun'.exists_number hseparated
        obtain ⟨c, rfl⟩ := hfirst.first b n' a htokens hunfit'
        rw [Token.text_append, List.length_append]
        exact Nat.le_add_right _ _
      · rw [parse_of_read hread, hfault]
        rfl

/-- A zero suffix, too large a number of faces, and a suffix above the limit: the first of them is
reported, although the last suffix overrides it. -/
theorem parse_unfit_overridden :
    parse "1d6x00 - d18446744073709551616x101" = .error ⟨.zeroRepetitions, "x00", 3⟩ ∧
      ∃ pre n post, DigitRun "1d6x00-d18446744073709551616x101".toList pre n post ∧
        n.Blamed pre "cannot repeat a roll zero times" 3 ∧
        ∀ pre' n' post', DigitRun "1d6x00-d18446744073709551616x101".toList pre' n' post' →
          n'.Unfit pre' → pre.length ≤ pre'.length := by
  let faces : Digits := .ofNat wordCount
  have hfaces : wordCount ≤ faces.value := Nat.le_of_eq (Digits.value_ofNat wordCount).symm
  have hstrip : strip "1d6x00 - d18446744073709551616x101".toList =
      "1d6x00-d18446744073709551616x101".toList := by rfl
  have hparse : parse "1d6x00 - d18446744073709551616x101" =
      .error ⟨.zeroRepetitions, "x00", 3⟩ := by decide +kernel
  have hrun : DigitRun (strip "1d6x00 - d18446744073709551616x101".toList) "1d6x00-d".toList
      faces "x101".toList := ⟨by rfl, by simp, by simp⟩
  let zeros : Digits := ⟨['0', '0'], by simp, by simp⟩
  let F : Formula :=
    ⟨⟨some (.ofNat 1), .ofNat 6, none⟩, some zeros,
      [⟨.minus, .dice ⟨none, faces, none⟩, some (.ofNat 101)⟩]⟩
  have hF : F.text = strip "1d6x00 - d18446744073709551616x101".toList := by rfl
  obtain ⟨pre, n, post, e, hfirst, -, hleftmost, herror, hblamed⟩ :=
    parse_unfit "1d6x00 - d18446744073709551616x101" F hF ⟨_, faces, _, hrun, .inl hfaces⟩
  obtain rfl := Except.error.inj (herror.symm.trans hparse)
  rw [hstrip] at hfirst hleftmost
  exact ⟨hparse, pre, n, post, hfirst, hblamed, hleftmost⟩

end DiceNotation
