import DiceNotation.Proofs.Draws
import DiceNotation.Proofs.NormalForm
import DiceNotation.Query

/-! # Repeated formulas

A repetition suffix may stand behind any term of a formula, and wherever it
stands the formula denotes the same copies of the same batch. Batches are
evaluated one after the other on one source, so a suffix `xN` amounts to rolling
the formula `N` times in a row, up to the first failure.
-/

namespace DiceNotation

namespace Formula

theorem filterMap_times_bare (ts : List Summand) :
    (ts.map Summand.bare).filterMap Summand.times = [] := by
  simp only [List.filterMap_map, List.filterMap_eq_nil_iff]
  exact fun _ _ => rfl

/-- The formula up to its `k`-th signed term, without a suffix of the leading one. -/
def upTo (F : Formula) (k : Nat) : Formula := ⟨F.lead, none, F.rest.take k⟩

theorem bare_eq_extend (F : Formula) (k : Nat) :
    F.bare = (F.upTo k).bare.extend ((F.rest.drop k).map Summand.bare) := by
  simp [bare, upTo, extend]

theorem terms_upTo (F : Formula) (k : Nat) :
    (F.upTo k).batch.terms = F.batch.terms.take (k + 1) := by
  simp [batch, upTo, Batch.terms]

theorem Fits.upTo {F : Formula} (h : F.Fits) (k : Nat) : (F.upTo k).Fits :=
  ⟨h.1, by simp [Formula.upTo], fun t ht => h.2.2 t (List.mem_of_mem_take ht)⟩

theorem exists_repeated_at (F : Formula) (k : Nat) (n : Digits) : ∃ G : Formula,
    G.tokens = (F.upTo k).bare.tokens ++ [.times, .number n] ++
      ((F.rest.drop k).map Summand.bare).flatMap Summand.tokens ∧
    (F.Fits → n.Repeats → G.Fits) ∧ G.batches = List.replicate n.value F.batch := by
  obtain ⟨G, htokens, hfits, hbatch, hsuffixes⟩ := (F.upTo k).exists_repeated n
  refine ⟨G.extend ((F.rest.drop k).map Summand.bare), ?_, ?_, ?_⟩
  · rw [tokens_extend, htokens]
  · intro hF hn
    have hbare := hF.bare
    rw [F.bare_eq_extend k] at hbare
    exact fits_extend.mpr ⟨hfits (hF.upTo k) hn, (fits_extend.mp hbare).2⟩
  · have hall : (G.extend ((F.rest.drop k).map Summand.bare)).batch = F.batch := by
      rw [batch_extend, hbatch, ← F.batch_bare, F.bare_eq_extend k, batch_extend, batch_bare]
    have hone : (G.extend ((F.rest.drop k).map Summand.bare)).suffixes = [n] := by
      rw [suffixes_extend, hsuffixes, filterMap_times_bare, List.append_nil]
    rw [batches_of_suffixes hone, hall]

end Formula

theorem mem_of_mem_strip {c : Char} {cs : List Char} (h : c ∈ strip cs) : c ∈ cs :=
  (List.mem_filter.mp h).1

/-- The text is that of the batch's first terms, one of them at least. -/
def Batch.EndsTerm (b : Batch) (cs : List Char) : Prop :=
  ∃ k < b.terms.length, cs = (b.terms.take (k + 1)).flatMap fun t => t.raw.toList

theorem parse_without_suffix {f : String} {bs : List Batch} (h : parse f = .ok bs)
    (hx : 'x' ∉ f.toList) :
    ∃ F : Formula, F.bare.text = strip f.toList ∧ F.Fits ∧ bs = [F.batch] := by
  obtain ⟨F, htext, hfits, -⟩ := parse_eq_ok_iff.mp h
  have hbare : F.bare.text = strip f.toList := by
    have hstrip : 'x' ∉ strip f.toList := fun hmem => hx (mem_of_mem_strip hmem)
    have hsame := withoutSuffixes_append hstrip []
    rw [withoutSuffixes, List.append_nil] at hsame
    rw [← Formula.withoutSuffixes_text, htext, hsame]
  have honce : parse f = .ok [F.batch] :=
    parse_eq_ok_iff.mpr ⟨F.bare, hbare, hfits.bare, F.batches_bare⟩
  exact ⟨F, hbare, hfits, Except.ok.inj (h.symm.trans honce)⟩

theorem strip_decimal (n : Nat) : strip (decimal n).toList = (decimal n).toList := by
  have h := Token.strip_text [.number (Digits.ofNat n)]
  simpa [Token.chars, toList_decimal] using h

/-- One suffix behind any term of a formula that has none makes that many copies of its batch. -/
theorem parse_suffixed {f₁ f₂ : String} {bs : List Batch} {b : Batch} {n : Nat}
    (h : parse (f₁ ++ f₂) = .ok bs) (hx : 'x' ∉ (f₁ ++ f₂).toList) (hb : b ∈ bs)
    (hend : b.EndsTerm (strip f₁.toList)) (hmin : 1 ≤ n) (hmax : n ≤ maxRepetitions) :
    bs = [b] ∧ parse (f₁ ++ "x" ++ decimal n ++ f₂) = .ok (List.replicate n b) := by
  obtain ⟨F, htext, hfits, rfl⟩ := parse_without_suffix h hx
  obtain rfl := List.mem_singleton.mp hb
  refine ⟨rfl, ?_⟩
  obtain ⟨k, -, hbefore⟩ := hend
  obtain ⟨G, htokens, hG, hbatches⟩ := F.exists_repeated_at k (Digits.ofNat n)
  have hfirst : (F.upTo k).bare.text = strip f₁.toList := by
    rw [hbefore, ← Formula.terms_upTo, ← Formula.toList_text_batch, Batch.text,
      String.toList_join, List.flatMap_map]
  have hlast : Token.text (((F.rest.drop k).map Summand.bare).flatMap Summand.tokens) =
      strip f₂.toList := by
    rw [F.bare_eq_extend k, Formula.text, Formula.tokens_extend, Token.text_append,
      String.toList_append, strip_append, ← hfirst] at htext
    exact List.append_cancel_left htext
  refine parse_eq_ok_iff.mpr ⟨G, ?_, hG hfits ?_, ?_⟩
  · rw [Formula.text, htokens, Token.text_append, Token.text_append, hlast]
    simp only [String.toList_append, strip_append, strip_decimal]
    rw [← hfirst, toList_decimal]
    simp [Token.chars, Formula.text]
    rfl
  · rw [Digits.Repeats, Digits.value_ofNat]
    exact ⟨hmin, hmax⟩
  · rw [hbatches, Digits.value_ofNat]

def Results.append (R R' : Results) : Results := ⟨R.batches ++ R'.batches⟩

section

variable {σ : Type} {src : Source σ} {thresholds : Thresholds}

theorem evaluateAll_append (xs ys : List Batch) :
    evaluateAll (xs ++ ys) thresholds src = (do
      let R ← evaluateAll xs thresholds src
      let R' ← evaluateAll ys thresholds src
      pure (R.append R')) := by
  simp only [evaluateAll, List.mapM_append, bind_assoc, pure_bind, Results.append]

/-- Rolls a formula several times in a row on one source, up to the first failure, and strings the
batches together. -/
def rollTimes (formula : String) (thresholds : Thresholds) (src : Source σ) :
    Nat → σ → Except RollError Results × σ
  | 0, state => (.ok ⟨[]⟩, state)
  | n + 1, state =>
    match roll formula thresholds src state with
    | (.error e, next) => (.error e, next)
    | (.ok R, next) =>
      match rollTimes formula thresholds src n next with
      | (.error e, last) => (.error e, last)
      | (.ok R', last) => (.ok (R.append R'), last)

theorem roll_of_parse_error {f : String} {e : ParseError} (h : parse f = .error e) (s : σ) :
    roll f thresholds src s = (.error (.parse e), s) := by
  have hquery : Query.ofFormula f = .error e := by
    rw [Query.ofFormula, h]
    rfl
  rw [roll, hquery]

theorem roll_of_parse {f : String} {bs : List Batch} (h : parse f = .ok bs) (s : σ) :
    roll f thresholds src s =
      (((evaluateAll bs thresholds src).runOn s).1.mapError .evaluation,
        ((evaluateAll bs thresholds src).runOn s).2) := by
  have hquery : Query.ofFormula f = .ok ⟨f, bs, .unbounded⟩ := by
    rw [Query.ofFormula, h]
    rfl
  rw [roll, hquery]
  rfl

theorem rollTimes_of_parse {f : String} {b : Batch} (h : parse f = .ok [b]) (n : Nat) (s : σ) :
    rollTimes f thresholds src n s =
      (((evaluateAll (List.replicate n b) thresholds src).runOn s).1.mapError .evaluation,
        ((evaluateAll (List.replicate n b) thresholds src).runOn s).2) := by
  induction n generalizing s with
  | zero => rfl
  | succ n ih =>
      have hsplit : List.replicate (n + 1) b = [b] ++ List.replicate n b := rfl
      rw [rollTimes, roll_of_parse h, hsplit, evaluateAll_append, Rolling.runOn_bind]
      cases hfirst : (evaluateAll [b] thresholds src).runOn s with
      | mk outcome next =>
          cases outcome with
          | error e => rfl
          | ok R =>
              simp only [Except.mapError, ih, Rolling.runOn_bind]
              cases hrest : (evaluateAll (List.replicate n b) thresholds src).runOn next with
              | mk outcome' last => cases outcome' <;> rfl

end

/-- A suffix `xn` behind any term of a formula without suffixes makes rolling it the same as rolling
the formula `n` times in a row: the same batches, or the first failure, from the same draws. -/
theorem roll_repeated {σ : Type} (src : Source σ) (s : σ) (thresholds : Thresholds)
    (f₁ f₂ : String) (bs : List Batch) (b : Batch) (n : Nat) (h : parse (f₁ ++ f₂) = .ok bs)
    (hx : 'x' ∉ (f₁ ++ f₂).toList) (hb : b ∈ bs) (hend : b.EndsTerm (strip f₁.toList))
    (hmin : 1 ≤ n) (hmax : n ≤ maxRepetitions) :
    roll (f₁ ++ "x" ++ decimal n ++ f₂) thresholds src s =
      rollTimes (f₁ ++ f₂) thresholds src n s := by
  obtain ⟨rfl, hsuffixed⟩ := parse_suffixed h hx hb hend hmin hmax
  rw [roll_of_parse hsuffixed, rollTimes_of_parse h]

/-- The third run gets a nine for a six sided die, so the repeated formula fails with it, after five
draws; of the two runs before nothing is returned, and the runs after it do not take place, however
many of them there are. -/
theorem roll_repeated_thrice :
    roll ("2d6 " ++ "x" ++ decimal 3 ++ "+ 1") .unbounded Script.source.counted
        (⟨[3, 5, 1, 6, 9], .highest⟩, 0) =
      rollTimes "2d6 + 1" .unbounded Script.source.counted 3 (⟨[3, 5, 1, 6, 9], .highest⟩, 0) ∧
    rollTimes "2d6 + 1" .unbounded Script.source.counted 3 (⟨[3, 5, 1, 6, 9], .highest⟩, 0) =
      (.error (.evaluation (.badDraw 9 6)), ⟨[], .highest⟩, 5) ∧
    roll ("2d6 " ++ "x" ++ decimal 100 ++ "+ 1") .unbounded Script.source.counted
        (⟨[3, 5, 1, 6, 9], .highest⟩, 0) =
      (.error (.evaluation (.badDraw 9 6)), ⟨[], .highest⟩, 5) := by
  have hjoin : "2d6 " ++ "+ 1" = "2d6 + 1" := by rfl
  have hparse : parse "2d6 + 1" =
      .ok [⟨⟨"2d6", false, 2, 6, none⟩, [.constant ⟨"+1", false, 1⟩]⟩] := by decide +kernel
  have hrepeated (n : Nat) (hmin : 1 ≤ n) (hmax : n ≤ maxRepetitions) :=
    roll_repeated Script.source.counted (⟨[3, 5, 1, 6, 9], .highest⟩, 0) .unbounded "2d6 " "+ 1" _ _
      n (hjoin ▸ hparse) (by decide) List.mem_cons_self ⟨0, by decide, by rfl⟩ hmin hmax
  rw [hjoin] at hrepeated
  refine ⟨hrepeated 3 (by decide) (by decide), ?_, (hrepeated 100 (by decide) (by decide)).trans ?_⟩
  all_goals
    rw [rollTimes_of_parse hparse]
    rfl

end DiceNotation
