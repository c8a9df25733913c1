import DiceNotation.Proofs.Courses
import DiceNotation.Proofs.NormalForm

/-! # Signs

A sign opens one term and decides about nothing but the sign of that term's total.
Only sign tokens are written with a sign's character, so exchanging one in a text
exchanges one in its formula; and no check, no draw and no choice among the draws
looks at the sign, so both terms take the same course on every source.
-/

namespace DiceNotation

namespace Sign

def other : Sign → Sign
  | .plus => .minus
  | .minus => .plus

/-- What is shown of the sign in front of a total. -/
def shown : Sign → String
  | .plus => ""
  | .minus => "-"

/-- The text with this sign in place of its first character. -/
def reopen (sign : Sign) (raw : String) : String := String.ofList (sign.char :: raw.toList.tail)

theorem reopen_ofList (sign : Sign) (c : Char) (cs : List Char) :
    sign.reopen (String.ofList (c :: cs)) = String.ofList (sign.char :: cs) := by
  rw [reopen, String.toList_ofList, List.tail_cons]

theorem char_inj {a b : Sign} (h : a.char = b.char) : a = b := by
  cases a <;> cases b <;> first | rfl | exact absurd h (by decide)

theorem if_minus_shown (sign : Sign) :
    (if decide (sign = .minus) = true then "-" else "") = sign.shown := by
  cases sign <;> rfl

end Sign

def DiceRoll.withSign (d : DiceRoll) (sign : Sign) : DiceRoll :=
  { d with raw := sign.reopen d.raw, negative := sign = .minus }

def Constant.withSign (c : Constant) (sign : Sign) : Constant :=
  { c with raw := sign.reopen c.raw, negative := sign = .minus }

/-- The term with another sign, and else as it is. -/
def Term.withSign (t : Term) (sign : Sign) : Term :=
  match t with
  | .dice d => .dice (d.withSign sign)
  | .constant c => .constant (c.withSign sign)

/-- The results of a term with this sign and with the other one: the draws are the same, the totals
are opposite, and the traces show the one and the other sign in front of the same number. -/
structure Term.Opposite (t : Term) (sign : Sign) (r r' : TermResult) : Prop where
  rolls_eq : r'.rolls = r.rolls
  critics_eq : r'.critics = r.critics
  toInt_total : r'.total.toInt = -r.total.toInt
  trace_constant : t.dice? = none → r.trace = none ∧ r'.trace = none
  trace_dice : ∀ d, t.dice? = some d → ∃ rolls, r.rolls = some rolls ∧
    let draws := rolls.map fun o => decimal o.value.toNat
    let number := decimal r.total.toInt.natAbs
    r.trace = some (bracketed draws (sign.shown ++ number)) ∧
      r'.trace = some (bracketed draws (sign.other.shown ++ number))

section

variable {σ : Type} {src : Source σ} {s : σ}

theorem DiceRoll.fault?_withSign (d : DiceRoll) (sign : Sign) :
    (d.withSign sign).fault? = d.fault? := rfl

theorem DiceRoll.draw_withSign (d : DiceRoll) (sign : Sign) (src : Source σ) :
    (d.withSign sign).draw src = d.draw src := rfl

theorem DiceRoll.runOn_evaluate_withSign (d : DiceRoll) (src : Source σ) (s : σ) :
    (∃ e s', ∀ sign, ((d.withSign sign).evaluate src).runOn s = (.error e, s')) ∨
      ∃ vs s', d.fault? = none ∧ d.Completes vs ∧
        ∀ sign, ((d.withSign sign).evaluate src).runOn s =
          (.ok ((d.withSign sign).result vs), s') := by
  cases hfault : d.fault? with
  | some e =>
      refine .inl ⟨e, s, fun sign => ?_⟩
      exact runOn_evaluate_of_fault? ((d.fault?_withSign sign).trans hfault) s
  | none =>
      cases hdraw : (d.draw src).runOn s with
      | mk outcome s' =>
          cases outcome with
          | error e =>
              refine .inl ⟨e, s', fun sign => ?_⟩
              apply runOn_evaluate_of_draw_error ((d.fault?_withSign sign).trans hfault)
              rw [draw_withSign, hdraw]
          | ok os =>
              obtain ⟨vs, hvs, -, rfl⟩ := runOn_draw_eq_ok_iff.mp hdraw
              refine .inr ⟨vs, s', rfl, hvs, fun sign => ?_⟩
              apply runOn_evaluate_of_draw ((d.fault?_withSign sign).trans hfault) hvs
              rw [draw_withSign, hdraw]
              rfl

theorem neg_signed (n : Nat) (sign : Sign) :
    (if decide (sign.other = .minus) = true then -(n : Int) else n) =
      -(if decide (sign = .minus) = true then -(n : Int) else n) := by
  cases sign
  · rfl
  · exact (Int.neg_neg _).symm

theorem DiceRoll.opposite_result {d : DiceRoll} {vs : List UInt64} (hfault : d.fault? = none)
    (hvs : d.Completes vs) (sign : Sign) :
    (Term.dice d).Opposite sign ((d.withSign sign).result vs)
      ((d.withSign sign.other).result vs) where
  rolls_eq := rfl
  critics_eq := rfl
  toInt_total := by
    rw [toInt_total_result (d := d.withSign sign) hfault hvs,
      toInt_total_result (d := d.withSign sign.other) hfault hvs]
    exact neg_signed _ sign
  trace_constant := by simp [Term.dice?]
  trace_dice := by
    intro d' _
    have hnumber : ((d.withSign sign).result vs).total.toInt.natAbs = (d.magnitude vs).toNat :=
      natAbs_total_result (d := d.withSign sign) hfault hvs
    have hdraws : ((vs.map (Outcome.ofDraw · d.faces)).map fun o => decimal o.value.toNat) =
        vs.map fun v => decimal v.toNat := by
      rw [List.map_map]
      rfl
    refine ⟨vs.map (.ofDraw · d.faces), rfl, ?_, ?_⟩
    · rw [hnumber, hdraws, ← sign.if_minus_shown]
      rfl
    · rw [hnumber, hdraws, ← sign.other.if_minus_shown]
      rfl

theorem Constant.amount?_withSign (c : Constant) :
    (∀ sign, (c.withSign sign).amount? = none) ∨
      ∃ total : Sign → Int64, (∀ sign, (c.withSign sign).amount? = some (total sign)) ∧
        ∀ sign, (total sign.other).toInt = -(total sign).toInt := by
  by_cases hfits : c.value.toNat < halfWordCount
  · refine .inr ⟨fun sign => if decide (sign = .minus) = true then -c.value.toInt64
      else c.value.toInt64, fun sign => if_pos hfits, fun sign => ?_⟩
    dsimp only
    rw [toInt_signed hfits, toInt_signed hfits]
    exact neg_signed _ sign
  · exact .inl fun sign => if_neg hfits

/-- What a term comes to, for either sign: the same failure, or results with opposite totals. -/
theorem Term.runOn_evaluate_withSign (t : Term) (src : Source σ) (s : σ) :
    (∃ e s', ∀ sign, ((t.withSign sign).evaluate src).runOn s = (.error e, s')) ∨
      ∃ (r : Sign → TermResult) (s' : σ),
        (∀ sign, ((t.withSign sign).evaluate src).runOn s = (.ok (r sign), s')) ∧
          ∀ sign, t.Opposite sign (r sign) (r sign.other) := by
  cases t with
  | dice d =>
      rcases d.runOn_evaluate_withSign src s with herror | ⟨vs, s', hfault, hvs, hok⟩
      · exact .inl herror
      · exact .inr ⟨fun sign => (d.withSign sign).result vs, s', hok,
          DiceRoll.opposite_result hfault hvs⟩
  | constant c =>
      rcases c.amount?_withSign with hnone | ⟨total, hsome, hopposite⟩
      · refine .inl ⟨.constantTooLarge, s, fun sign => ?_⟩
        simp only [withSign, evaluate, hnone sign]
        rfl
      · refine .inr ⟨fun sign => ⟨.constant (c.withSign sign), none, none, total sign⟩, s, ?_, ?_⟩
        · intro sign
          simp only [withSign, evaluate, hsome sign]
          rfl
        · intro sign
          exact ⟨rfl, rfl, hopposite sign, fun _ => ⟨rfl, rfl⟩, by simp [dice?]⟩

theorem Term.runOn_withSign_snd (t : Term) (src : Source σ) (s : σ) (a b : Sign) :
    (((t.withSign a).evaluate src).runOn s).2 = (((t.withSign b).evaluate src).runOn s).2 := by
  rcases t.runOn_evaluate_withSign src s with ⟨e, s', herror⟩ | ⟨r, s', hok, -⟩
  · rw [herror a, herror b]
  · rw [hok a, hok b]

theorem Term.thrown_withSign (t : Term) (src : Source σ) (s : σ) (a b : Sign) :
    (t.withSign a).thrown src s = (t.withSign b).thrown src s := by
  rw [thrown, thrown, t.runOn_withSign_snd src.recorded (s, []) a b]

theorem Term.evaluate_exchanged {t : Term} {sign : Sign} (hown : t.withSign sign = t)
    (src : Source σ) (s : σ) :
    (t.withSign sign.other).thrown src s = t.thrown src s ∧
      (((t.withSign sign.other).evaluate src).runOn s).2 = ((t.evaluate src).runOn s).2 ∧
      ((∃ e, ((t.evaluate src).runOn s).1 = .error e ∧
          (((t.withSign sign.other).evaluate src).runOn s).1 = .error e) ∨
        ∃ r r', ((t.evaluate src).runOn s).1 = .ok r ∧
          (((t.withSign sign.other).evaluate src).runOn s).1 = .ok r' ∧
          t.Opposite sign r r') := by
  have hthrown := t.thrown_withSign src s sign.other sign
  have hstate := t.runOn_withSign_snd src s sign.other sign
  rw [hown] at hthrown hstate
  refine ⟨hthrown, hstate, ?_⟩
  rcases t.runOn_evaluate_withSign src s with ⟨e, s', herror⟩ | ⟨r, s', hok, hopposite⟩
  · have hone := herror sign
    rw [hown] at hone
    exact .inl ⟨e, by rw [hone], by rw [herror]⟩
  · have hone := hok sign
    rw [hown] at hone
    exact .inr ⟨r sign, r sign.other, by rw [hone], by rw [hok], hopposite sign⟩

end

/-! ## Signs in a text -/

theorem exists_append_of_not_mem {α : Type} {a : α} {as bs pre post : List α}
    (h : as ++ bs = pre ++ a :: post) (ha : a ∉ as) :
    ∃ mid, pre = as ++ mid ∧ bs = mid ++ a :: post := by
  rcases List.append_eq_append_iff.mp h with ⟨mid, hpre, hbs⟩ | ⟨mid, has, hpost⟩
  · exact ⟨mid, hpre, hbs⟩
  · cases mid with
    | nil => exact ⟨[], by simpa using has.symm, hpost.symm⟩
    | cons b mid =>
        obtain ⟨rfl, -⟩ := List.cons.inj hpost
        exact absurd (by simp [has]) ha

theorem Token.sign_mem_of_mem_text {sign : Sign} {ts : List Token}
    (h : sign.char ∈ text ts) : .sign sign ∈ ts := by
  obtain ⟨t, hmem, ht⟩ := List.mem_flatMap.mp h
  cases t with
  | sign s =>
      obtain rfl := Sign.char_inj (List.mem_singleton.mp ht)
      exact hmem
  | number n =>
      have hdigit := n.all_digits _ ht
      cases sign <;> exact absurd hdigit (by decide)
  | die | times => cases sign <;> simp [chars, Sign.char] at ht
  | mark m => cases m <;> cases sign <;> simp [chars, Mark.chars, Sign.char] at ht

theorem DiceText.sign_not_mem_tokens (d : DiceText) (sign : Sign) : .sign sign ∉ d.tokens := by
  obtain ⟨count, faces, modifier⟩ := d
  rcases count with _ | n <;> rcases modifier with _ | ⟨m, _ | k⟩ <;>
    simp [tokens, modifierTokens, ModifierText.tokens, numberTokens]

theorem sign_not_mem_timesTokens (times : Option Digits) (sign : Sign) :
    .sign sign ∉ timesTokens times := by
  cases times <;> simp [timesTokens]

namespace Summand

/-- The characters of a summand after its sign. -/
def unsigned (t : Summand) : List Char := Token.text (t.operand.tokens ++ timesTokens t.times)

def withSign (t : Summand) (sign : Sign) : Summand := { t with sign := sign }

theorem term_withSign (t : Summand) (sign : Sign) :
    (t.withSign sign).term = t.term.withSign sign := by
  obtain ⟨_, operand, _⟩ := t
  cases operand with
  | dice d =>
      simp only [term, Operand.term, withSign, Term.withSign, DiceRoll.withSign, DiceText.roll,
        Sign.reopen_ofList]
      rfl
  | constant n =>
      simp only [term, Operand.term, withSign, Term.withSign, Constant.withSign,
        Sign.reopen_ofList]
      rfl

theorem text_cons_flatMap (t : Summand) (ts : List Summand) :
    Token.text ((t :: ts).flatMap tokens) =
      t.sign.char :: (t.unsigned ++ Token.text (ts.flatMap tokens)) := by
  rw [List.flatMap_cons, Token.text_append]
  rfl

theorem sign_not_mem_unsigned (t : Summand) (sign : Sign) : sign.char ∉ t.unsigned := by
  intro h
  have hsign := Token.sign_mem_of_mem_text h
  obtain ⟨_, operand, times⟩ := t
  rcases List.mem_append.mp hsign with hoperand | htimes
  · cases operand with
    | dice d => exact d.sign_not_mem_tokens sign hoperand
    | constant n => simp [Operand.tokens] at hoperand
  · exact sign_not_mem_timesTokens times sign htimes

theorem exists_opened_by {ts : List Summand} {pre post : List Char} {sign : Sign}
    (h : Token.text (ts.flatMap tokens) = pre ++ sign.char :: post) :
    ∃ before t after, ts = before ++ t :: after ∧ t.sign = sign ∧
      Token.text (before.flatMap tokens) = pre := by
  induction ts generalizing pre with
  | nil => exact absurd h (by simp)
  | cons t ts ih =>
      rw [text_cons_flatMap] at h
      cases pre with
      | nil => exact ⟨[], t, ts, rfl, Sign.char_inj (List.cons.inj h).1, rfl⟩
      | cons c pre =>
          obtain ⟨rfl, hrest⟩ := List.cons.inj h
          obtain ⟨mid, rfl, hmid⟩ :=
            exists_append_of_not_mem hrest (t.sign_not_mem_unsigned sign)
          obtain ⟨before, u, after, rfl, hsign, hbefore⟩ := ih hmid
          refine ⟨t :: before, u, after, rfl, hsign, ?_⟩
          rw [text_cons_flatMap, hbefore]

end Summand

namespace Formula

theorem text_extend_cons (F : Formula) (t : Summand) (ts : List Summand) :
    (F.extend (t :: ts)).text =
      F.text ++ t.sign.char :: (t.unsigned ++ Token.text (ts.flatMap Summand.tokens)) := by
  rw [text, tokens_extend, Token.text_append, Summand.text_cons_flatMap]
  rfl

theorem exists_opened_by {F : Formula} {pre post : List Char} {sign : Sign}
    (h : F.text = pre ++ sign.char :: post) :
    ∃ (E : Formula) (t : Summand) (ts : List Summand), F = E.extend (t :: ts) ∧ t.sign = sign ∧
      E.text = pre ∧ post = t.unsigned ++ Token.text (ts.flatMap Summand.tokens) := by
  obtain ⟨lead, times, rest⟩ := F
  have hopening : sign.char ∉ Token.text (lead.tokens ++ timesTokens times) := by
    intro hmem
    rcases List.mem_append.mp (Token.sign_mem_of_mem_text hmem) with hlead | htimes
    · exact lead.sign_not_mem_tokens sign hlead
    · exact sign_not_mem_timesTokens times sign htimes
  rw [text, tokens, Token.text_append] at h
  obtain ⟨mid, rfl, hmid⟩ := exists_append_of_not_mem h hopening
  obtain ⟨before, t, after, rfl, hsign, hbefore⟩ := Summand.exists_opened_by hmid
  have hE : (⟨lead, times, before⟩ : Formula).text =
      Token.text (lead.tokens ++ timesTokens times) ++ mid := by
    rw [text, tokens, Token.text_append, hbefore]
  refine ⟨⟨lead, times, before⟩, t, after, rfl, hsign, hE, ?_⟩
  rw [List.flatMap_append, Token.text_append, hbefore, Summand.text_cons_flatMap] at hmid
  exact (List.cons.inj (List.append_cancel_left hmid)).2.symm

end Formula

/-- In a formula, let one sign be exchanged for the other. The new formula denotes as many batches,
and they differ only in the term that the sign opens, which is the one after the terms that the text
in front of the sign denotes; of that term only the flag and the first character differ. On every
source both terms fail with the same error or have the same draws and opposite totals, and they make
the same throws. -/
theorem parse_sign_exchanged (f g : String) (pre post : List Char) (sign : Sign)
    (bs : List Batch) (h : parse f = .ok bs) (hf : strip f.toList = pre ++ sign.char :: post)
    (hg : strip g.toList = pre ++ sign.other.char :: post) :
    ∃ n m lead before t after, 1 ≤ n ∧ 1 ≤ m ∧
      bs = List.replicate n ⟨lead, before ++ t :: after⟩ ∧
      parse g = .ok (List.replicate n ⟨lead, before ++ t.withSign sign.other :: after⟩) ∧
      parse (String.ofList pre) = .ok (List.replicate m ⟨lead, before⟩) ∧
      t.withSign sign = t ∧
      ∀ (σ : Type) (src : Source σ) (s : σ),
        (t.withSign sign.other).thrown src s = t.thrown src s ∧
        (((t.withSign sign.other).evaluate src).runOn s).2 = ((t.evaluate src).runOn s).2 ∧
        ((∃ e, ((t.evaluate src).runOn s).1 = .error e ∧
            (((t.withSign sign.other).evaluate src).runOn s).1 = .error e) ∨
          ∃ r r', ((t.evaluate src).runOn s).1 = .ok r ∧
            (((t.withSign sign.other).evaluate src).runOn s).1 = .ok r' ∧
            t.Opposite sign r r') := by
  obtain ⟨F, htext, hfits, rfl⟩ := parse_eq_ok_iff.mp h
  rw [hf] at htext
  obtain ⟨E, u, us, rfl, rfl, hpre, hpost⟩ := Formula.exists_opened_by htext
  obtain ⟨hE, hus⟩ := Formula.fits_extend.mp hfits
  let G : Formula := E.extend (u.withSign u.sign.other :: us)
  have hown : u.term.withSign u.sign = u.term := (u.term_withSign u.sign).symm
  refine ⟨(E.extend (u :: us)).repetitions, E.repetitions, E.batch.lead, E.batch.rest, u.term,
    us.map Summand.term, (Formula.repetitions_bounds hfits).1, (Formula.repetitions_bounds hE).1,
    ?_, ?_, ?_, hown, ?_⟩
  · rw [Formula.batches, Formula.batch_extend, List.map_cons]
  · have hG : G.text = strip g.toList := by
      rw [Formula.text_extend_cons, hpre, hg, hpost]
      rfl
    have hGfits : G.Fits := by
      rw [List.forall_mem_cons] at hus
      exact Formula.fits_extend.mpr ⟨hE, List.forall_mem_cons.mpr ⟨hus.1, hus.2⟩⟩
    have hrepetitions : G.repetitions = (E.extend (u :: us)).repetitions := by
      rw [Formula.repetitions, Formula.repetitions, Formula.suffixes_extend,
        Formula.suffixes_extend]
      rfl
    refine parse_eq_ok_iff.mpr ⟨G, hG, hGfits, ?_⟩
    rw [Formula.batches, hrepetitions, Formula.batch_extend, List.map_cons, Summand.term_withSign]
  · refine parse_eq_ok_iff.mpr ⟨E, ?_, hE, rfl⟩
    rw [String.toList_ofList, ← hpre, Formula.text, Token.strip_text]
  · intro σ src s
    exact Term.evaluate_exchanged hown src s

/-- The second of three signs is exchanged. The first die explodes with either sign. -/
theorem parse_sign_exchanged_second :
    let lead : DiceRoll := ⟨"1d4", false, 1, 4, none⟩
    let two : Term := .constant ⟨"+2", false, 2⟩
    let dice : Term := .dice ⟨"-2d6!1", true, 2, 6, some (.explode 1)⟩
    let last : Term := .dice ⟨"+d8", false, 1, 8, none⟩
    let script : Script := ⟨[6, 2, 3], .highest⟩
    parse "1d4+2-2d6!1x2 + d8" = .ok (List.replicate 2 ⟨lead, [two, dice, last]⟩) ∧
      parse "1d4 + 2 + 2d6!1x2+d8" =
        .ok (List.replicate 2 ⟨lead, [two, dice.withSign .plus, last]⟩) ∧
      ∃ r r', ((dice.evaluate Script.source).runOn script).1 = .ok r ∧
        (((dice.withSign .plus).evaluate Script.source).runOn script).1 = .ok r' ∧
        r.total.toInt = -11 ∧ r'.total.toInt = 11 := by
  intro lead two dice last script
  have hparse : parse "1d4+2-2d6!1x2 + d8" =
      .ok (List.replicate 2 ⟨lead, [two, dice, last]⟩) := by decide +kernel
  have hbefore : parse (String.ofList "1d4+2".toList) = .ok [⟨lead, [two]⟩] := by decide +kernel
  obtain ⟨n, m, lead', before, t, after, -, -, hbs, hg, hpre, -, heval⟩ :=
    parse_sign_exchanged "1d4+2-2d6!1x2 + d8" "1d4 + 2 + 2d6!1x2+d8" "1d4+2".toList
      "2d6!1x2+d8".toList .minus _ hparse (by decide) (by decide)
  obtain rfl : n = 2 := by simpa using (congrArg List.length hbs).symm
  have hfirst : (⟨lead, [two]⟩ : Batch) = ⟨lead', before⟩ := by
    apply List.eq_of_mem_replicate
    rw [← Except.ok.inj (hbefore.symm.trans hpre)]
    exact List.mem_singleton_self _
  cases hfirst
  have hall : (⟨lead, [two, dice, last]⟩ : Batch) = ⟨lead, [two] ++ t :: after⟩ :=
    (List.cons.inj hbs).1
  cases hall
  let result : TermResult :=
    ⟨dice, some [.ofDraw 6 6, .ofDraw 2 6, .ofDraw 3 6], some (traceText [6, 2, 3] 11 true), -11⟩
  have hresult : ((dice.evaluate Script.source).runOn script).1 = .ok result := rfl
  refine ⟨hparse, hg, ?_⟩
  rcases (heval Script Script.source script).2.2 with ⟨e, herror, -⟩ | ⟨r, r', hr, hr', hopposite⟩
  · cases hresult.symm.trans herror
  · cases hresult.symm.trans hr
    exact ⟨result, r', hresult, hr', by decide, hopposite.toInt_total⟩

end DiceNotation
