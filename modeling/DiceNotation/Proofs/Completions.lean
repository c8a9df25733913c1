import DiceNotation.Editor
import DiceNotation.Proofs.Beginnings
import DiceNotation.Proofs.NormalForm

/-! # Completing a keep mark

Where a text with a `k` behind it can still become a formula, the `k` opens a keep
mark, and a mark is read only behind the faces of dice without a modifier. So the
text is a formula already, its last term being these dice, and its numbers have
been checked with those of the longer formula. Either completion writes the mark
in full, which is a modifier of the same dice.
-/

namespace DiceNotation

/-! ## Replacing a part of a line -/

theorem splitBytes_append (u v : String) :
    splitBytes u.utf8ByteSize (u ++ v).toList = some (u.toList, v.toList) := by
  have h := splitBytes_utf8ByteSize u.toList v.toList
  rwa [String.ofList_toList, ← String.toList_append] at h

namespace Editor

/-- The line with another text in place of what stands from `start` up to the cursor; `none` if one
of them is not at a place in the line. -/
def replace? (line : String) (start position : Nat) (text : String) : Option String := do
  let (before, _) ← splitBytes start line.toList
  let (_, after) ← splitBytes position line.toList
  return String.ofList before ++ text ++ String.ofList after

theorem complete?_append_k (u : String) :
    complete? (u ++ "k") (u ++ "k").utf8ByteSize = some ⟨u.utf8ByteSize, keepModifiers⟩ := by
  have hsplit := splitBytes_append (u ++ "k") ""
  rw [String.append_empty] at hsplit
  have hlast : (u ++ "k").toList.getLast? = some 'k' := by simp
  have hstart : (u ++ "k").utf8ByteSize - 1 = u.utf8ByteSize := by
    rw [String.utf8ByteSize_append]
    rfl
  simp only [complete?, hsplit, Option.map_some, if_pos hlast, hstart]

theorem replace?_append (u v text : String) :
    replace? (u ++ v) u.utf8ByteSize (u ++ v).utf8ByteSize text = some (u ++ text) := by
  have hall := splitBytes_append (u ++ v) ""
  rw [String.append_empty] at hall
  rw [replace?, splitBytes_append, hall]
  simp

end Editor

/-! ## The dice in front of a mark -/

namespace Token

theorem exists_token_around {ts : List Token} {pre post : List Char} {c : Char}
    (h : text ts = pre ++ c :: post) :
    ∃ before t after cs ds, ts = before ++ t :: after ∧ t.chars = cs ++ c :: ds ∧
      pre = text before ++ cs := by
  induction ts generalizing pre with
  | nil => exact absurd h (by simp)
  | cons t ts ih =>
      rw [text_cons] at h
      rcases List.append_eq_append_iff.mp h with ⟨mid, rfl, hts⟩ | ⟨mid, ht, hpost⟩
      · obtain ⟨before, u, after, cs, ds, rfl, hu, rfl⟩ := ih hts
        exact ⟨t :: before, u, after, cs, ds, rfl, hu, (List.append_assoc _ _ _).symm⟩
      · cases mid with
        | nil =>
            -- `t` ends right before the character, which begins a later token.
            have hts : text ts = [] ++ c :: post := hpost.symm
            obtain ⟨before, u, after, cs, ds, rfl, hu, hpre⟩ := ih hts
            refine ⟨t :: before, u, after, cs, ds, rfl, hu, ?_⟩
            rw [text_cons, List.append_assoc, ← hpre, ht, List.append_nil, List.append_nil]
        | cons d mid =>
            obtain ⟨rfl, -⟩ := List.cons.inj hpost
            exact ⟨[], t, ts, pre, mid, rfl, ht, rfl⟩

theorem exists_mark_of_chars {t : Token} {cs ds : List Char} (h : t.chars = cs ++ 'k' :: ds) :
    cs = [] ∧ ∃ m, t = .mark m := by
  have hk : 'k' ∈ t.chars := by simp [h]
  cases t with
  | number n => exact absurd (n.all_digits 'k' hk) (by decide)
  | die | times => simp [chars] at hk
  | sign s => cases s <;> simp [chars, Sign.char] at hk
  | mark m =>
      refine ⟨?_, m, rfl⟩
      cases m with
      | explode => simp [chars, Mark.chars] at hk
      | keepHigh | keepLow =>
          cases cs with
          | nil => rfl
          | cons c cs => cases cs <;> simp [chars, Mark.chars] at h

end Token

namespace Reading

theorem exists_dice_of_step_mark {r r' : Reading} {m : Mark} (h : r.step (.mark m) = some r') :
    ∃ o count faces, r = .dice o ⟨count, faces, none⟩ := by
  unfold step at h
  split at h
  case h_6 => exact ⟨_, _, _, rfl⟩
  case h_11 => cases h
  all_goals
    rename_i heq
    cases heq

end Reading

/-- The formula that ends in these dice. -/
def Opening.ending (o : Opening) (d : DiceText) : Formula := (o.dice d).close none

/-- The two batches differ in their last terms only: these are the same dice without a modifier in
`b` and with one in `b'`, where its text is added to theirs. -/
def Batch.LastModified (b : Batch) (written : String) (modifier : Modifier) (b' : Batch) : Prop :=
  ∃ before d, b.terms = before ++ [.dice d] ∧ d.modifier = none ∧
    b'.terms = before ++ [.dice { d with raw := d.raw ++ written, modifier := some modifier }]

namespace Opening

variable {count : Option Digits} {faces : Digits}

theorem tokens_ending (o : Opening) (d : DiceText) :
    (o.ending d).tokens = o.tokens ++ d.tokens := by
  simp [ending, timesTokens]

theorem tokens_ending_marked (o : Opening) (m : Mark) :
    (o.ending ⟨count, faces, some ⟨m, none⟩⟩).tokens =
      (o.ending ⟨count, faces, none⟩).tokens ++ [.mark m] := by
  simp [tokens_ending, DiceText.tokens, modifierTokens, ModifierText.tokens, numberTokens]

theorem fits_ending_marked {o : Opening} (h : (o.ending ⟨count, faces, none⟩).Fits) (m : Mark) :
    (o.ending ⟨count, faces, some ⟨m, none⟩⟩).Fits := by
  rw [← Token.fault?_formula (p := 0)] at h ⊢
  rw [tokens_ending_marked, Token.fault?_append (by simp), h]
  rfl

theorem repetitions_ending (o : Opening) (d d' : DiceText) :
    (o.ending d').repetitions = (o.ending d).repetitions := by
  cases o with
  | start => rfl
  | signed F s =>
      simp [ending, dice, Stem.close, Formula.repetitions, Formula.suffixes, Formula.push]

theorem exists_terms_ending (o : Opening) : ∃ before cs negative, ∀ d,
    (o.ending d).batch.terms =
      before ++ [.dice (d.roll (cs ++ Token.text d.tokens) negative)] := by
  cases o with
  | start => exact ⟨[], [], false, fun d => rfl⟩
  | signed F s =>
      refine ⟨F.batch.terms, [s.char], s = .minus, fun d => ?_⟩
      simp [ending, dice, Stem.close, Formula.push, Formula.batch, Batch.terms, Summand.term,
        Operand.term, Operand.tokens]

theorem lastModified_ending (o : Opening) (m : Mark) :
    (o.ending ⟨count, faces, none⟩).batch.LastModified (String.ofList m.chars)
      (ModifierText.modifier ⟨m, none⟩) (o.ending ⟨count, faces, some ⟨m, none⟩⟩).batch := by
  obtain ⟨before, cs, negative, hterms⟩ := o.exists_terms_ending
  refine ⟨before, _, hterms _, rfl, ?_⟩
  have htokens : Token.text (DiceText.tokens ⟨count, faces, some ⟨m, none⟩⟩) =
      Token.text (DiceText.tokens ⟨count, faces, none⟩) ++ m.chars := by
    simp [DiceText.tokens, modifierTokens, ModifierText.tokens, numberTokens, Token.chars]
  rw [hterms, htokens, ← List.append_assoc, DiceText.roll, String.ofList_append]
  rfl

end Opening

namespace Formula

theorem exists_ending_of_text {F : Formula} {pre post : List Char}
    (h : F.text = pre ++ 'k' :: post) :
    ∃ (o : Opening) (count : Option Digits) (faces : Digits),
      (o.ending ⟨count, faces, none⟩).text = pre ∧
        (F.Fits → (o.ending ⟨count, faces, none⟩).Fits) := by
  obtain ⟨before, t, after, cs, ds, htokens, ht, rfl⟩ := Token.exists_token_around h
  obtain ⟨rfl, m, rfl⟩ := Token.exists_mark_of_chars ht
  -- The formula is read to its end, so the mark is read too, in the state behind `before`.
  obtain ⟨r, hrun, -⟩ := Reading.run_tokens F
  rw [htokens] at hrun
  obtain ⟨q, hq⟩ := Reading.exists_run_of_append hrun
  rw [Reading.run_append hq] at hrun
  obtain ⟨_, hstep, -⟩ := Reading.exists_step_of_run hrun
  obtain ⟨o, count, faces, rfl⟩ := Reading.exists_dice_of_step_mark hstep
  have hbefore : (o.ending ⟨count, faces, none⟩).tokens = before := by
    have hall := Reading.tokens_run (.opened .start) before
    rw [hq, List.append_nil] at hall
    rw [Opening.tokens_ending]
    exact hall
  refine ⟨o, count, faces, ?_, ?_⟩
  · rw [text, hbefore, List.append_nil]
  · intro hfits
    rw [← Token.fault?_formula (p := 0)] at hfits ⊢
    rw [htokens, Token.fault?_append (by simp)] at hfits
    rw [hbefore]
    exact (Option.or_eq_none_iff.mp hfits).1

end Formula

/-- A text that with a `k` behind it can be continued to a formula is one itself, and goes on with
any mark as a modifier of its last dice. -/
theorem parse_marked {u v : String} {bs : List Batch} (h : parse (u ++ "k" ++ v) = .ok bs) :
    ∃ n b, 1 ≤ n ∧ parse u = .ok (List.replicate n b) ∧
      ∀ m : Mark, ∃ b', parse (u ++ String.ofList m.chars) = .ok (List.replicate n b') ∧
        b.LastModified (String.ofList m.chars) (ModifierText.modifier ⟨m, none⟩) b' := by
  obtain ⟨F, htext, hfits, rfl⟩ := parse_eq_ok_iff.mp h
  have hk : strip (u ++ "k" ++ v).toList = strip u.toList ++ 'k' :: strip v.toList := by
    rw [String.toList_append, String.toList_append, strip_append, strip_append, List.append_assoc]
    rfl
  obtain ⟨o, count, faces, hpre, hends⟩ := Formula.exists_ending_of_text (htext.trans hk)
  have hplain := hends hfits
  refine ⟨(o.ending ⟨count, faces, none⟩).repetitions, (o.ending ⟨count, faces, none⟩).batch,
    (Formula.repetitions_bounds hplain).1, parse_eq_ok_iff.mpr ⟨_, hpre, hplain, rfl⟩, ?_⟩
  intro m
  refine ⟨(o.ending ⟨count, faces, some ⟨m, none⟩⟩).batch, ?_, o.lastModified_ending m⟩
  refine parse_eq_ok_iff.mpr ⟨_, ?_, Opening.fits_ending_marked hplain m, ?_⟩
  · have hmark : strip m.chars = m.chars := by simpa [Token.chars] using Token.strip_text [.mark m]
    rw [String.toList_append, strip_append, String.toList_ofList, hmark, ← hpre, Formula.text,
      Opening.tokens_ending_marked, Token.text_append]
    simp [Formula.text, Token.chars]
  · rw [Formula.batches, o.repetitions_ending ⟨count, faces, none⟩]

/-- Where a text with a `k` behind it can be continued to a formula, the `k` is completed to the two
keep marks. The text denotes batches, and with either mark in place of the `k` it denotes as many,
in which the last dice have the modifier besides: one of them is kept, the highest or the lowest. -/
theorem Editor.complete?_of_continued (u v : String) (bs : List Batch)
    (h : parse (u ++ "k" ++ v) = .ok bs) :
    complete? (u ++ "k") (u ++ "k").utf8ByteSize = some ⟨u.utf8ByteSize, ["kh", "kl"]⟩ ∧
      ∃ n b, 1 ≤ n ∧ parse u = .ok (List.replicate n b) ∧
        ∀ candidate modifier,
          (candidate, modifier) ∈ [("kh", Modifier.keepHigh 1), ("kl", Modifier.keepLow 1)] →
          ∃ line b',
            replace? (u ++ "k") u.utf8ByteSize (u ++ "k").utf8ByteSize candidate = some line ∧
            line = u ++ candidate ∧ parse line = .ok (List.replicate n b') ∧
            b.LastModified candidate modifier b' := by
  obtain ⟨n, b, hn, hparse, hmarked⟩ := parse_marked h
  refine ⟨complete?_append_k u, n, b, hn, hparse, ?_⟩
  intro candidate modifier hcandidate
  have hmark : ∃ m : Mark, String.ofList m.chars = candidate ∧
      ModifierText.modifier ⟨m, none⟩ = modifier := by
    rcases List.mem_pair.mp hcandidate with hhigh | hlow
    · cases hhigh
      exact ⟨.keepHigh, rfl, rfl⟩
    · cases hlow
      exact ⟨.keepLow, rfl, rfl⟩
  obtain ⟨m, rfl, rfl⟩ := hmark
  obtain ⟨b', hparse', hmodified⟩ := hmarked m
  exact ⟨_, b', replace?_append u "k" _, rfl, hparse', hmodified⟩

/-- The last dice are followed by white space of three bytes, and the suffix behind the completed
mark does not count for the text before it. -/
theorem Editor.complete?_of_continued_blank :
    let lead : DiceRoll := ⟨"d20", false, 1, 20, none⟩
    parse "d20x3 - 2d6\u3000kh1x2" = .ok (List.replicate 2
        ⟨lead, [.dice ⟨"-2d6kh1", true, 2, 6, some (.keepHigh 1)⟩]⟩) ∧
      complete? "d20x3 - 2d6\u3000k" 15 = some ⟨14, ["kh", "kl"]⟩ ∧
      replace? "d20x3 - 2d6\u3000k" 14 15 "kl" = some "d20x3 - 2d6\u3000kl" ∧
      parse "d20x3 - 2d6\u3000kl" = .ok (List.replicate 3
        ⟨lead, [.dice ⟨"-2d6kl", true, 2, 6, some (.keepLow 1)⟩]⟩) := by
  intro lead
  let last : DiceRoll := ⟨"-2d6", true, 2, 6, none⟩
  have hparse : parse ("d20x3 - 2d6\u3000" ++ "k" ++ "h1x2") = .ok (List.replicate 2
      ⟨lead, [.dice ⟨"-2d6kh1", true, 2, 6, some (.keepHigh 1)⟩]⟩) := by decide +kernel
  have hplain : parse "d20x3 - 2d6\u3000" = .ok (List.replicate 3 ⟨lead, [.dice last]⟩) := by
    decide +kernel
  obtain ⟨hcomplete, n, b, -, hu, hall⟩ := complete?_of_continued _ _ _ hparse
  obtain ⟨_, b', hline, rfl, hkept, before, d, hb, -, hb'⟩ := hall "kl" (.keepLow 1) (by simp)
  have hcopies := Except.ok.inj (hu.symm.trans hplain)
  obtain rfl : n = 3 := by simpa using congrArg List.length hcopies
  obtain rfl : b = ⟨lead, [.dice last]⟩ := (List.cons.inj hcopies).1
  have hterms : [Term.dice lead] ++ [.dice last] = before ++ [.dice d] := hb
  obtain ⟨rfl, hd⟩ := List.append_inj' hterms rfl
  cases hd
  obtain rfl := Option.some.inj (Batch.ofTerms?_eq_some_iff.mpr hb'.symm)
  exact ⟨hparse, hcomplete, hline, hkept⟩

end DiceNotation
