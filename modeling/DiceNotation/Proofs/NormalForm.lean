import DiceNotation.Proofs.Grammar
import Mathlib.Data.List.TakeWhile

/-! # The text of a batch as a normal form

A batch is shown as its formula without the repetition suffixes. No two tokens
are glued together where a suffix is cut out, for what follows it begins with a
sign; so the text of a batch is again a formula's, it denotes that batch, and
with one suffix at its end it denotes as many copies.
-/

namespace DiceNotation

/-- A text without its repetition suffixes: every `x` goes, with the digits behind it. -/
def withoutSuffixes : List Char → List Char
  | [] => []
  | 'x' :: cs => withoutSuffixes (cs.dropWhile Char.isDigit)
  | c :: cs => c :: withoutSuffixes cs
termination_by cs => cs.length
decreasing_by
  · have hle := List.length_dropWhile_le Char.isDigit cs
    simp only [List.length_cons]
    omega
  · simp

def Summand.bare (t : Summand) : Summand := { t with times := none }

def Formula.bare (F : Formula) : Formula :=
  { F with times := none, rest := F.rest.map Summand.bare }

/-- The formula with more signed terms at its end. -/
def Formula.extend (F : Formula) (ts : List Summand) : Formula := { F with rest := F.rest ++ ts }

namespace Summand

theorem term_bare (t : Summand) : t.bare.term = t.term := rfl

theorem tokens_bare (t : Summand) : t.bare.tokens = .sign t.sign :: t.operand.tokens := by
  simp [bare, tokens, timesTokens]

theorem raw_term (t : Summand) : t.term.raw = String.ofList (Token.text t.bare.tokens) := by
  rw [tokens_bare]
  obtain ⟨sign, operand, times⟩ := t
  cases operand <;> rfl

end Summand

namespace Formula

theorem batch_bare (F : Formula) : F.bare.batch = F.batch := by
  have hrest : (F.rest.map Summand.bare).map Summand.term = F.rest.map Summand.term := by
    rw [List.map_map]
    exact List.map_congr_left fun t _ => t.term_bare
  rw [batch, batch, bare, hrest]

theorem Fits.bare {F : Formula} (h : F.Fits) : F.bare.Fits := by
  obtain ⟨hlead, -, hrest⟩ := h
  refine ⟨hlead, by simp [Formula.bare], ?_⟩
  intro t ht
  obtain ⟨u, hu, rfl⟩ := List.mem_map.mp ht
  exact ⟨(hrest u hu).1, by simp [Summand.bare]⟩

theorem suffixes_bare (F : Formula) : F.bare.suffixes = [] := by
  simp [suffixes, bare, Function.comp_def, Summand.bare]

theorem batches_bare (F : Formula) : F.bare.batches = [F.batch] := by
  simp [batches, repetitions, suffixes_bare, batch_bare]

theorem batches_of_suffixes {F : Formula} {n : Digits} (h : F.suffixes = [n]) :
    F.batches = List.replicate n.value F.batch := by
  rw [batches, repetitions, h]
  rfl

/-- A batch is shown as the formula without its suffixes. -/
theorem toList_text_batch (F : Formula) : F.batch.text.toList = F.bare.text := by
  have hrest (ts : List Summand) : (ts.map Summand.term).flatMap (fun t => t.raw.toList) =
      Token.text ((ts.map Summand.bare).flatMap Summand.tokens) := by
    induction ts with
    | nil => rfl
    | cons t ts ih =>
        rw [List.map_cons, List.map_cons, List.flatMap_cons, List.flatMap_cons, Token.text_append,
          ih, Summand.raw_term, String.toList_ofList]
  have hlead : (Term.dice F.batch.lead).raw.toList = Token.text F.lead.tokens :=
    String.toList_ofList
  rw [Batch.text, String.toList_join, List.flatMap_map, Batch.terms, List.flatMap_cons, hlead,
    Formula.text, Formula.tokens, Token.text_append, Token.text_append]
  simp only [bare, timesTokens, Token.text_nil, List.append_nil]
  exact congrArg _ (hrest F.rest)

theorem tokens_extend (F : Formula) (ts : List Summand) :
    (F.extend ts).tokens = F.tokens ++ ts.flatMap Summand.tokens := by
  simp [extend, tokens]

theorem fits_extend {F : Formula} {ts : List Summand} :
    (F.extend ts).Fits ↔ F.Fits ∧ ∀ t ∈ ts, t.Fits := by
  simp [Fits, extend, or_imp, forall_and, and_assoc]

theorem batch_extend (F : Formula) (ts : List Summand) :
    (F.extend ts).batch = { F.batch with rest := F.batch.rest ++ ts.map Summand.term } := by
  simp [batch, extend]

theorem suffixes_extend (F : Formula) (ts : List Summand) :
    (F.extend ts).suffixes = F.suffixes ++ ts.filterMap Summand.times := by
  cases htimes : F.times <;> simp [suffixes, extend, htimes, List.filterMap_map]

theorem bare_extend (F : Formula) (ts : List Summand) :
    (F.extend ts).bare = F.bare.extend (ts.map Summand.bare) := by
  simp [bare, extend]

theorem lead_or_extend (F : Formula) :
    F = ⟨F.lead, F.times, []⟩ ∨ ∃ (G : Formula) (t : Summand), F = G.extend [t] := by
  obtain ⟨lead, times, rest⟩ := F
  rcases List.eq_nil_or_concat' rest with rfl | ⟨ts, t, rfl⟩
  · exact .inl rfl
  · exact .inr ⟨⟨lead, times, ts⟩, t, rfl⟩

/-- A formula is repeated by one suffix at the end of its text. -/
theorem exists_repeated (F : Formula) (n : Digits) : ∃ G : Formula,
    G.tokens = F.bare.tokens ++ [.times, .number n] ∧ (F.Fits → n.Repeats → G.Fits) ∧
      G.batch = F.batch ∧ G.suffixes = [n] := by
  -- The suffix belongs to the last term, which is the leading one if no other follows.
  rcases F.lead_or_extend with hF | ⟨G, t, rfl⟩
  · rw [hF]
    refine ⟨⟨F.lead, some n, []⟩, ?_, ?_, rfl, rfl⟩
    · simp [tokens, bare, timesTokens]
    · rintro ⟨hlead, -, -⟩ hn
      exact ⟨hlead, by simpa using hn, by simp⟩
  · refine ⟨G.bare.extend [{ t with times := some n }], ?_, ?_, ?_, ?_⟩
    · rw [bare_extend, tokens_extend, tokens_extend]
      simp [Summand.tokens, Summand.bare, timesTokens]
    · intro hfits hn
      obtain ⟨hG, ht⟩ := fits_extend.mp hfits
      have hlast : ({ t with times := some n } : Summand).Fits :=
        ⟨(ht t List.mem_cons_self).1, by simpa using hn⟩
      exact fits_extend.mpr ⟨hG.bare, by simpa using hlast⟩
    · rw [batch_extend, batch_extend, batch_bare]
      rfl
    · rw [suffixes_extend, suffixes_bare]
      rfl

end Formula

namespace Token

theorem strip_text (ts : List Token) : strip (text ts) = text ts := by
  have hdigit {c : Char} (h : c.isDigit = true) : isBlank c = false := by
    obtain ⟨hlow, hhigh⟩ : 48 ≤ c.toNat ∧ c.toNat ≤ 57 := Char.isDigit_iff_toNat.mp h
    simp only [isBlank, Bool.or_eq_false_iff, Bool.and_eq_false_iff, decide_eq_false_iff_not,
      beq_eq_false_iff_ne]
    omega
  refine List.filter_eq_self.mpr ?_
  intro c hc
  obtain ⟨t, -, ht⟩ := List.mem_flatMap.mp hc
  cases t with
  | number n => simp [hdigit (n.all_digits c ht)]
  | die | times =>
      obtain rfl := List.mem_singleton.mp ht
      decide
  | mark m => cases m <;> simp [chars, Mark.chars] at ht <;> rcases ht with rfl | rfl <;> decide
  | sign s => cases s <;> simp [chars, Sign.char] at ht <;> subst ht <;> decide

theorem times_mem_of_mem_text {ts : List Token} (h : 'x' ∈ text ts) : .times ∈ ts := by
  obtain ⟨t, hmem, ht⟩ := List.mem_flatMap.mp h
  cases t with
  | times => exact hmem
  | number n => exact absurd (n.all_digits 'x' ht) (by decide)
  | die => simp [chars] at ht
  | mark m => cases m <;> simp [chars, Mark.chars] at ht
  | sign s => cases s <;> simp [chars, Sign.char] at ht

end Token

theorem withoutSuffixes_append {cs : List Char} (h : 'x' ∉ cs) (ds : List Char) :
    withoutSuffixes (cs ++ ds) = cs ++ withoutSuffixes ds := by
  induction cs with
  | nil => rfl
  | cons c cs ih =>
      obtain ⟨hc, hcs⟩ := List.ne_and_not_mem_of_not_mem_cons h
      rw [List.cons_append, withoutSuffixes, ih hcs]
      · rfl
      · exact fun heq => hc heq.symm

theorem withoutSuffixes_times (n : Option Digits) {ds : List Char}
    (hds : ∀ c ∈ ds.head?, c.isDigit = false) :
    withoutSuffixes (Token.text (timesTokens n) ++ ds) = withoutSuffixes ds := by
  cases n with
  | none => rfl
  | some n =>
      have hdrop : (n.chars ++ ds).dropWhile Char.isDigit = ds := by
        rw [List.dropWhile_append_of_pos n.all_digits]
        cases ds with
        | nil => rfl
        | cons c ds => simp [hds c rfl]
      simp only [timesTokens, Token.text_cons, Token.text_nil, Token.chars, List.append_nil,
        List.cons_append, List.nil_append, withoutSuffixes, hdrop]

theorem x_not_mem_dice (d : DiceText) : 'x' ∉ Token.text d.tokens := by
  intro h
  have htimes := Token.times_mem_of_mem_text h
  obtain ⟨count, faces, modifier⟩ := d
  rcases count with _ | n <;> rcases modifier with _ | ⟨m, _ | k⟩ <;>
    simp [DiceText.tokens, modifierTokens, ModifierText.tokens, numberTokens] at htimes

theorem x_not_mem_operand (s : Sign) (operand : Operand) :
    'x' ∉ Token.text (.sign s :: operand.tokens) := by
  intro h
  cases operand with
  | dice d =>
      rcases List.mem_append.mp h with hs | hd
      · cases s <;> simp [Token.chars, Sign.char] at hs
      · exact x_not_mem_dice d hd
  | constant n =>
      have htimes := Token.times_mem_of_mem_text h
      simp [Operand.tokens] at htimes

/-- What follows a suffix begins with a sign, so no digit is taken for the suffix's own. -/
theorem head_summands (ts : List Summand) :
    ∀ c ∈ (Token.text (ts.flatMap Summand.tokens)).head?, c.isDigit = false := by
  cases ts with
  | nil => simp
  | cons t ts =>
      intro c hc
      obtain rfl := Option.some.inj hc
      cases t.sign <;> rfl

namespace Formula

theorem withoutSuffixes_summands (ts : List Summand) :
    withoutSuffixes (Token.text (ts.flatMap Summand.tokens)) =
      Token.text ((ts.map Summand.bare).flatMap Summand.tokens) := by
  induction ts with
  | nil => simp [withoutSuffixes]
  | cons t ts ih =>
      have htokens : t.tokens = .sign t.sign :: t.operand.tokens ++ timesTokens t.times := rfl
      rw [List.flatMap_cons, htokens, Token.text_append, Token.text_append, List.append_assoc,
        withoutSuffixes_append (x_not_mem_operand t.sign t.operand),
        withoutSuffixes_times t.times (head_summands ts), ih, List.map_cons, List.flatMap_cons,
        Summand.tokens_bare, Token.text_append]

theorem withoutSuffixes_text (F : Formula) : withoutSuffixes F.text = F.bare.text := by
  rw [text, tokens, Token.text_append, Token.text_append, List.append_assoc,
    withoutSuffixes_append (x_not_mem_dice F.lead),
    withoutSuffixes_times F.times (head_summands F.rest), withoutSuffixes_summands]
  simp [text, tokens, bare, timesTokens]

theorem parse_text_batch {F : Formula} (h : F.Fits) : parse F.batch.text = .ok [F.batch] := by
  refine parse_eq_ok_iff.mpr ⟨F.bare, ?_, h.bare, F.batches_bare⟩
  rw [toList_text_batch, text, Token.strip_text]

theorem parse_text_batch_times {F : Formula} (h : F.Fits) {k : Nat} (hmin : 1 ≤ k)
    (hmax : k ≤ maxRepetitions) :
    parse (F.batch.text ++ "x" ++ decimal k) = .ok (List.replicate k F.batch) := by
  obtain ⟨G, htokens, hfits, hbatch, hsuffixes⟩ := F.exists_repeated (Digits.ofNat k)
  refine parse_eq_ok_iff.mpr ⟨G, ?_, hfits h ?_, ?_⟩
  · have htext : (F.batch.text ++ "x" ++ decimal k).toList = G.text := by
      rw [String.toList_append, String.toList_append, toList_text_batch, toList_decimal, text,
        text, htokens, Token.text_append]
      simp [Token.chars]
    rw [htext, text, Token.strip_text]
  · rw [Digits.Repeats, Digits.value_ofNat]
    exact ⟨hmin, hmax⟩
  · rw [batches_of_suffixes hsuffixes, Digits.value_ofNat, hbatch]

theorem repetitions_bounds {F : Formula} (h : F.Fits) :
    1 ≤ F.repetitions ∧ F.repetitions ≤ maxRepetitions := by
  unfold repetitions
  split
  · decide
  · rename_i n hn
    exact h.repeats n (List.mem_of_getLast? hn)

end Formula

/-- The batches a text denotes are copies of one batch. Its text is the text without white space
and suffixes; read again it denotes one copy, and with a suffix `x` of any allowed number that many,
in particular as many as there were. -/
theorem parse_normal_form (f : String) (bs : List Batch) (h : parse f = .ok bs) :
    ∃ b, bs = List.replicate bs.length b ∧ 1 ≤ bs.length ∧
      b.text.toList = withoutSuffixes (strip f.toList) ∧
      parse b.text = .ok [b] ∧
      (∀ k, 1 ≤ k → k ≤ maxRepetitions →
        parse (b.text ++ "x" ++ decimal k) = .ok (List.replicate k b)) ∧
      parse (b.text ++ "x" ++ decimal bs.length) = .ok bs := by
  obtain ⟨F, htext, hfits, rfl⟩ := parse_eq_ok_iff.mp h
  obtain ⟨hmin, hmax⟩ := Formula.repetitions_bounds hfits
  refine ⟨F.batch, ?_, ?_, ?_, ?_, ?_, ?_⟩
  · rw [Formula.length_batches]
    rfl
  · rw [Formula.length_batches]
    exact hmin
  · rw [← htext, Formula.withoutSuffixes_text, Formula.toList_text_batch]
  · exact Formula.parse_text_batch hfits
  · intro k hk hk'
    exact Formula.parse_text_batch_times hfits hk hk'
  · rw [Formula.length_batches]
    exact Formula.parse_text_batch_times hfits hmin hmax

theorem parse_normal_form_twice :
    ∃ b, parse " 04d6!3x7 - d4kl x2" = .ok [b, b] ∧
      b.text.toList = withoutSuffixes "04d6!3x7-d4klx2".toList ∧ parse b.text = .ok [b] ∧
      (∀ k, 1 ≤ k → k ≤ maxRepetitions →
        parse (b.text ++ "x" ++ decimal k) = .ok (List.replicate k b)) ∧
      parse (b.text ++ "x100") = .ok (List.replicate 100 b) := by
  have h : parse " 04d6!3x7 - d4kl x2" = .ok (List.replicate 2
      ⟨⟨"04d6!3", false, 4, 6, some (.explode 3)⟩,
        [.dice ⟨"-d4kl", true, 1, 4, some (.keepLow 1)⟩]⟩) := by decide +kernel
  obtain ⟨b, hcopies, -, htext, honce, htimes, -⟩ := parse_normal_form _ _ h
  have hmost := htimes 100 (by decide) (by decide)
  rw [String.append_assoc] at hmost
  exact ⟨b, h.trans (congrArg Except.ok hcopies), htext, honce, htimes, hmost⟩

end DiceNotation
