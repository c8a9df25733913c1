import DiceNotation.Proofs.Numbers

/-! # The grammar with its meaning

The language of formulas, said of characters alone:

    formula = term modterm*
    term    = [digits] 'd' digits [mod] ['x' digits]
    modterm = ('+' | '-') ([digits] 'd' digits [mod] | digits) ['x' digits]
    mod     = '!' [digits] | 'kh' [digits] | 'kl' [digits]

Each relation below holds of a phrase and what the phrase denotes. Neither
tokens nor the order of reading take part, so parsing can be compared with it:
a text parses to the batches that it denotes as a sentence once its white space
is left out, and to nothing else.
-/

namespace DiceNotation

namespace Grammar

/-- The characters with the Unicode property White_Space. -/
def whiteSpace : List Char :=
  ['\t', '\n', '\x0b', '\x0c', '\r', ' ', '\u0085', '\u00a0', '\u1680', '\u2000', '\u2001',
    '\u2002', '\u2003', '\u2004', '\u2005', '\u2006', '\u2007', '\u2008', '\u2009', '\u200a',
    '\u2028', '\u2029', '\u202f', '\u205f', '\u3000']

/-- One or more digits, leading zeros included, that denote a 64-bit word. -/
inductive Number : List Char → UInt64 → Prop where
  | digits {cs n} (nonempty : cs ≠ []) (ascii : ∀ c ∈ cs, c.isDigit = true)
      (value : Nat.ofDigitChars 10 cs 0 = n.toNat) : Number cs n

inductive NumberOr (default : UInt64) : List Char → UInt64 → Prop where
  | omitted : NumberOr default [] default
  | written {cs n} : Number cs n → NumberOr default cs n

/-- What follows the faces: nothing, or one modifier. -/
inductive Modified : List Char → Option Modifier → Prop where
  | plain : Modified [] none
  | explode {cs n} : NumberOr 0 cs n → Modified ('!' :: cs) (some (.explode n))
  | keepHigh {cs n} : NumberOr 1 cs n → Modified ('k' :: 'h' :: cs) (some (.keepHigh n))
  | keepLow {cs n} : NumberOr 1 cs n → Modified ('k' :: 'l' :: cs) (some (.keepLow n))

/-- A dice term. Its sign and the text it is remembered by come from outside. -/
inductive Dice (raw : List Char) (negative : Bool) : List Char → DiceRoll → Prop where
  | dice {cs fs ms count faces modifier} : NumberOr 1 cs count → Number fs faces →
      Modified ms modifier →
      Dice raw negative (cs ++ 'd' :: fs ++ ms)
        ⟨String.ofList raw, negative, count, faces, modifier⟩

inductive Unsigned (raw : List Char) (negative : Bool) : List Char → Term → Prop where
  | dice {cs d} : Dice raw negative cs d → Unsigned raw negative cs (.dice d)
  | constant {cs n} : Number cs n →
      Unsigned raw negative cs (.constant ⟨String.ofList raw, negative, n⟩)

/-- A signed term without its suffix; it is remembered as it stands. -/
inductive Signed : List Char → Term → Prop where
  | plus {cs t} : Unsigned ('+' :: cs) false cs t → Signed ('+' :: cs) t
  | minus {cs t} : Unsigned ('-' :: cs) true cs t → Signed ('-' :: cs) t

inductive Suffix : List Char → Option Nat → Prop where
  | omitted : Suffix [] none
  | written {cs n} : Number cs n → 1 ≤ n.toNat → n.toNat ≤ 100 →
      Suffix ('x' :: cs) (some n.toNat)

/-- Any number of signed terms with their suffixes, of which the last one is returned. -/
inductive Tail : List Char → List Term → Option Nat → Prop where
  | nil : Tail [] [] none
  | cons {cs xs ds t ts own later} : Signed cs t → Suffix xs own → Tail ds ts later →
      Tail (cs ++ xs ++ ds) (t :: ts) (later.or own)

/-- A whole formula, with the batch it denotes and how often it is evaluated. -/
inductive Sentence : List Char → Batch → Nat → Prop where
  | formula {cs xs ds lead ts own later} : Dice cs false cs lead → Suffix xs own →
      Tail ds ts later → Sentence (cs ++ xs ++ ds) ⟨lead, ts⟩ ((later.or own).getD 1)

theorem mem_whiteSpace_iff {c : Char} : c ∈ whiteSpace ↔ isBlank c = true := by
  simp only [whiteSpace, isBlank, List.mem_cons, List.not_mem_nil, or_false, Bool.or_eq_true,
    Bool.and_eq_true, decide_eq_true_eq, beq_iff_eq, ← Char.toNat_inj]
  simp only [Char.reduceToNat]
  omega

theorem filter_whiteSpace (cs : List Char) : cs.filter (· ∉ whiteSpace) = strip cs := by
  simp only [strip, mem_whiteSpace_iff, decide_not, Bool.decide_eq_true]

theorem number_iff {cs : List Char} {n : UInt64} :
    Number cs n ↔ ∃ ds : Digits, ds.chars = cs ∧ ds.Fits ∧ ds.word = n := by
  constructor
  · intro h
    obtain ⟨nonempty, ascii, value⟩ := h
    refine ⟨⟨cs, nonempty, ascii⟩, rfl, ?_, ?_⟩
    · rw [Digits.Fits, Digits.value, value]
      exact n.toNat_lt
    · rw [Digits.word, Digits.value, value]
      exact UInt64.ofNat_toNat
  · intro h
    obtain ⟨ds, rfl, hfits, rfl⟩ := h
    refine .digits ds.nonempty ds.all_digits ?_
    exact (UInt64.toNat_ofNat_of_lt' hfits).symm

theorem numberOr_iff {default : UInt64} {cs : List Char} {n : UInt64} :
    NumberOr default cs n ↔ ∃ o : Option Digits,
      Token.text (numberTokens o) = cs ∧ (∀ m ∈ o, m.Fits) ∧ wordOr default o = n := by
  constructor
  · intro h
    cases h with
    | omitted => exact ⟨none, rfl, by simp, rfl⟩
    | written hn =>
        obtain ⟨ds, rfl, hfits, rfl⟩ := number_iff.mp hn
        exact ⟨some ds, by simp [numberTokens, Token.chars], by simpa using hfits, rfl⟩
  · intro h
    obtain ⟨_ | ds, rfl, hfits, rfl⟩ := h
    · exact .omitted
    · refine .written (number_iff.mpr ⟨ds, ?_, hfits ds rfl, rfl⟩)
      simp [numberTokens, Token.chars]

theorem modified_iff {cs : List Char} {m : Option Modifier} :
    Modified cs m ↔ ∃ o : Option ModifierText, Token.text (modifierTokens o) = cs ∧
      (∀ t ∈ o, ∀ n ∈ t.amount, n.Fits) ∧ o.map ModifierText.modifier = m := by
  constructor
  · intro h
    cases h with
    | plain => exact ⟨none, rfl, by simp, rfl⟩
    | explode hn =>
        obtain ⟨o, rfl, hfits, rfl⟩ := numberOr_iff.mp hn
        exact ⟨some ⟨.explode, o⟩, rfl, by simpa using hfits, rfl⟩
    | keepHigh hn =>
        obtain ⟨o, rfl, hfits, rfl⟩ := numberOr_iff.mp hn
        exact ⟨some ⟨.keepHigh, o⟩, rfl, by simpa using hfits, rfl⟩
    | keepLow hn =>
        obtain ⟨o, rfl, hfits, rfl⟩ := numberOr_iff.mp hn
        exact ⟨some ⟨.keepLow, o⟩, rfl, by simpa using hfits, rfl⟩
  · intro h
    obtain ⟨_ | ⟨mark, o⟩, rfl, hfits, rfl⟩ := h
    · exact .plain
    · have hamount {default : UInt64} :
          NumberOr default (Token.text (numberTokens o)) (wordOr default o) :=
        numberOr_iff.mpr ⟨o, rfl, hfits _ rfl, rfl⟩
      cases mark with
      | explode => exact .explode hamount
      | keepHigh => exact .keepHigh hamount
      | keepLow => exact .keepLow hamount

theorem dice_iff {raw cs : List Char} {negative : Bool} {d : DiceRoll} :
    Dice raw negative cs d ↔ ∃ t : DiceText, Token.text t.tokens = cs ∧ t.Fits ∧
      t.roll raw negative = d := by
  constructor
  · intro h
    obtain ⟨counted, sided, modified⟩ := h
    obtain ⟨count, rfl, hcount, rfl⟩ := numberOr_iff.mp counted
    obtain ⟨faces, rfl, hfaces, rfl⟩ := number_iff.mp sided
    obtain ⟨modifier, rfl, hmodifier, rfl⟩ := modified_iff.mp modified
    refine ⟨⟨count, faces, modifier⟩, ?_, ⟨hcount, hfaces, hmodifier⟩, rfl⟩
    simp [DiceText.tokens, Token.chars]
  · intro h
    obtain ⟨⟨count, faces, modifier⟩, rfl, ⟨hcount, hfaces, hmodifier⟩, rfl⟩ := h
    have h : Dice raw negative _ (DiceText.roll ⟨count, faces, modifier⟩ raw negative) :=
      .dice (numberOr_iff.mpr ⟨count, rfl, hcount, rfl⟩) (number_iff.mpr ⟨faces, rfl, hfaces, rfl⟩)
        (modified_iff.mpr ⟨modifier, rfl, hmodifier, rfl⟩)
    simpa [DiceText.tokens, Token.chars] using h

theorem unsigned_iff {raw cs : List Char} {negative : Bool} {t : Term} :
    Unsigned raw negative cs t ↔ ∃ operand : Operand, Token.text operand.tokens = cs ∧
      operand.Fits ∧ operand.term raw negative = t := by
  constructor
  · intro h
    cases h with
    | dice hd =>
        obtain ⟨d, rfl, hfits, rfl⟩ := dice_iff.mp hd
        exact ⟨.dice d, rfl, hfits, rfl⟩
    | constant hn =>
        obtain ⟨ds, rfl, hfits, rfl⟩ := number_iff.mp hn
        exact ⟨.constant ds, by simp [Operand.tokens, Token.chars], hfits, rfl⟩
  · intro h
    obtain ⟨d | ds, rfl, hfits, rfl⟩ := h
    · exact .dice (dice_iff.mpr ⟨d, rfl, hfits, rfl⟩)
    · refine .constant (number_iff.mpr ⟨ds, ?_, hfits, rfl⟩)
      simp [Operand.tokens, Token.chars]

theorem suffix_iff {cs : List Char} {n : Option Nat} :
    Suffix cs n ↔ ∃ o : Option Digits, Token.text (timesTokens o) = cs ∧ (∀ m ∈ o, m.Repeats) ∧
      o.map Digits.value = n := by
  constructor
  · intro h
    cases h with
    | omitted => exact ⟨none, rfl, by simp, rfl⟩
    | written hn hmin hmax =>
        obtain ⟨ds, rfl, hfits, rfl⟩ := number_iff.mp hn
        have hword : ds.word.toNat = ds.value := UInt64.toNat_ofNat_of_lt' hfits
        rw [hword] at hmin hmax ⊢
        exact ⟨some ds, by simp [timesTokens, Token.chars], by simpa using ⟨hmin, hmax⟩, rfl⟩
  · intro h
    obtain ⟨_ | ds, rfl, hrepeats, rfl⟩ := h
    · exact .omitted
    · obtain ⟨hmin, hmax⟩ := hrepeats ds rfl
      have hfits : ds.Fits := Digits.Repeats.fits ⟨hmin, hmax⟩
      have hword : ds.word.toNat = ds.value := UInt64.toNat_ofNat_of_lt' hfits
      rw [← hword] at hmin hmax
      have h := Suffix.written (number_iff.mpr ⟨ds, rfl, hfits, rfl⟩) hmin hmax
      simpa [timesTokens, Token.chars, hword] using h

theorem signed_iff {cs : List Char} {t : Term} :
    Signed cs t ↔ ∃ (s : Sign) (operand : Operand),
      s.char :: Token.text operand.tokens = cs ∧ operand.Fits ∧
        operand.term (s.char :: Token.text operand.tokens) (s = .minus) = t := by
  constructor
  · intro h
    cases h with
    | plus ht =>
        obtain ⟨operand, rfl, hfits, rfl⟩ := unsigned_iff.mp ht
        exact ⟨.plus, operand, rfl, hfits, rfl⟩
    | minus ht =>
        obtain ⟨operand, rfl, hfits, rfl⟩ := unsigned_iff.mp ht
        exact ⟨.minus, operand, rfl, hfits, rfl⟩
  · intro h
    obtain ⟨s, operand, rfl, hfits, rfl⟩ := h
    cases s with
    | plus => exact .plus (unsigned_iff.mpr ⟨operand, rfl, hfits, rfl⟩)
    | minus => exact .minus (unsigned_iff.mpr ⟨operand, rfl, hfits, rfl⟩)

theorem tail_iff {cs : List Char} {ts : List Term} {later : Option Nat} :
    Tail cs ts later ↔ ∃ us : List Summand, Token.text (us.flatMap Summand.tokens) = cs ∧
      (∀ u ∈ us, u.Fits) ∧ us.map Summand.term = ts ∧
        (lastTimes us).map Digits.value = later := by
  constructor
  · intro h
    induction h with
    | nil => exact ⟨[], rfl, by simp, rfl, rfl⟩
    | cons ht hown _ ih =>
        obtain ⟨s, operand, rfl, hoperand, rfl⟩ := signed_iff.mp ht
        obtain ⟨n, rfl, hn, rfl⟩ := suffix_iff.mp hown
        obtain ⟨us, rfl, hus, rfl, rfl⟩ := ih
        refine ⟨⟨s, operand, n⟩ :: us, ?_, ?_, rfl, ?_⟩
        · simp [Summand.tokens, Token.chars]
        · exact List.forall_mem_cons.mpr ⟨⟨hoperand, hn⟩, hus⟩
        · rw [lastTimes_cons, Option.map_or]
  · intro h
    obtain ⟨us, rfl, hfits, rfl, rfl⟩ := h
    induction us with
    | nil => exact .nil
    | cons u us ih =>
        obtain ⟨⟨hoperand, hn⟩, hus⟩ := List.forall_mem_cons.mp hfits
        have h : Tail _ ((u :: us).map Summand.term) _ :=
          .cons (signed_iff.mpr ⟨u.sign, u.operand, rfl, hoperand, rfl⟩)
            (suffix_iff.mpr ⟨u.times, rfl, hn, rfl⟩) (ih hus)
        rw [lastTimes_cons, Option.map_or]
        simpa [Summand.tokens, Token.chars] using h

/-- A formula is evaluated as often as its last suffix says, and once if there is none. -/
theorem repetitions_eq (F : Formula) : F.repetitions =
    (((lastTimes F.rest).map Digits.value).or (F.times.map Digits.value)).getD 1 := by
  rw [Formula.repetitions, F.getLast?_suffixes, ← Option.map_or]
  cases (lastTimes F.rest).or F.times <;> rfl

theorem sentence_iff {cs : List Char} {b : Batch} {n : Nat} :
    Sentence cs b n ↔ ∃ F : Formula, F.text = cs ∧ F.Fits ∧ F.batch = b ∧ F.repetitions = n := by
  constructor
  · intro h
    obtain ⟨hlead, hown, htail⟩ := h
    obtain ⟨d, rfl, hd, rfl⟩ := dice_iff.mp hlead
    obtain ⟨o, rfl, ho, rfl⟩ := suffix_iff.mp hown
    obtain ⟨us, rfl, hus, rfl, rfl⟩ := tail_iff.mp htail
    refine ⟨⟨d, o, us⟩, ?_, ⟨hd, ho, hus⟩, rfl, repetitions_eq _⟩
    simp [Formula.text, Formula.tokens]
  · intro h
    obtain ⟨F, rfl, ⟨hlead, hown, htail⟩, rfl, rfl⟩ := h
    have h : Sentence _ F.batch _ := .formula (dice_iff.mpr ⟨F.lead, rfl, hlead, rfl⟩)
      (suffix_iff.mpr ⟨F.times, rfl, hown, rfl⟩) (tail_iff.mpr ⟨F.rest, rfl, htail, rfl, rfl⟩)
    rw [repetitions_eq]
    simpa [Formula.text, Formula.tokens] using h

end Grammar

/-- Parsing decides the grammar and returns what it denotes: the batches are as many copies of the
sentence's batch as the sentence says. -/
theorem parse_eq_ok_iff_sentence (f : String) (bs : List Batch) :
    parse f = .ok bs ↔ ∃ b n,
      Grammar.Sentence (f.toList.filter (· ∉ Grammar.whiteSpace)) b n ∧
        bs = List.replicate n b := by
  rw [parse_eq_ok_iff, Grammar.filter_whiteSpace]
  constructor
  · intro h
    obtain ⟨F, htext, hfits, rfl⟩ := h
    exact ⟨F.batch, F.repetitions, Grammar.sentence_iff.mpr ⟨F, htext, hfits, rfl, rfl⟩, rfl⟩
  · intro h
    obtain ⟨b, n, hsentence, rfl⟩ := h
    obtain ⟨F, htext, hfits, rfl, rfl⟩ := Grammar.sentence_iff.mp hsentence
    exact ⟨F, htext, hfits, rfl⟩

/-- White space within and around the terms, of two and of three bytes too, and the largest suffix
there is, overridden by one with a leading zero. -/
theorem parse_eq_ok_iff_sentence_blank :
    parse "2d 6k\u00a0h x100\t- 04\u3000x02\n" = .ok
      [⟨⟨"2d6kh", false, 2, 6, some (.keepHigh 1)⟩, [.constant ⟨"-04", true, 4⟩]⟩,
        ⟨⟨"2d6kh", false, 2, 6, some (.keepHigh 1)⟩, [.constant ⟨"-04", true, 4⟩]⟩] := by
  have htext : "2d 6k\u00a0h x100\t- 04\u3000x02\n".toList.filter (· ∉ Grammar.whiteSpace) =
      "2d6kh".toList ++ "x100".toList ++ ("-04".toList ++ "x02".toList ++ []) := by decide
  have hlead : Grammar.Dice "2d6kh".toList false "2d6kh".toList
      ⟨"2d6kh", false, 2, 6, some (.keepHigh 1)⟩ := by
    have htwo : Grammar.Number ['2'] 2 := .digits (by simp) (by simp) (by decide)
    have hsix : Grammar.Number ['6'] 6 := .digits (by simp) (by simp) (by decide)
    exact .dice (.written htwo) hsix (.keepHigh .omitted)
  have hown : Grammar.Suffix "x100".toList (some 100) := by
    have hmost : Grammar.Number ['1', '0', '0'] 100 := .digits (by simp) (by simp) (by decide)
    exact .written hmost (by decide) (by decide)
  have hterm : Grammar.Signed "-04".toList (.constant ⟨"-04", true, 4⟩) := by
    have hfour : Grammar.Number ['0', '4'] 4 := .digits (by simp) (by simp) (by decide)
    exact .minus (.constant hfour)
  have hlast : Grammar.Suffix "x02".toList (some 2) := by
    have htwo : Grammar.Number ['0', '2'] 2 := .digits (by simp) (by simp) (by decide)
    exact .written htwo (by decide) (by decide)
  refine (parse_eq_ok_iff_sentence _ _).mpr ⟨_, 2, ?_, rfl⟩
  rw [htext]
  exact .formula hlead hown (.cons hterm hlast .nil)

end DiceNotation
