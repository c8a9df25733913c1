import DiceNotation.Proofs.Comparison
import DiceNotation.Proofs.Repetition
import DiceNotation.View

/-! # Faithful views

A trace can be read off the text it stands in: where it ends is seen from the
text itself, whatever follows. The terms of a formula are known, so the traces
of a view come in known places and show all draws of a roll, and all else in its
results follows from these. Hence no two different results of a formula look the
same.
-/

namespace DiceNotation

/-- Whatever follows the text of a value, it shows which of the values with the property that is. -/
def Legible {α : Type} (P : α → Prop) (text : α → String) : Prop :=
  ∀ a a' x y, P a → P a' → (text a).toList ++ x = (text a').toList ++ y → a = a'

namespace Legible

variable {α β : Type} {P : β → α → Prop} {text : α → String}

theorem prepend {P : α → Prop} (s : String) (h : Legible P text) :
    Legible P fun a => s ++ text a := by
  intro a a' x y ha ha' heq
  simp only [String.toList_append, List.append_assoc] at heq
  exact h a a' x y ha ha' (List.append_cancel_left heq)

theorem append {P : α → Prop} (h : Legible P text) (more : α → String) :
    Legible P fun a => text a ++ more a := by
  intro a a' x y ha ha' heq
  simp only [String.toList_append, List.append_assoc] at heq
  exact h a a' _ _ ha ha' heq

theorem inj {P : α → Prop} (h : Legible P text) {a a' : α} (ha : P a) (ha' : P a')
    (heq : text a = text a') : a = a' :=
  h a a' [] [] ha ha' (by rw [heq])

theorem join (h : ∀ b, Legible (P b) text) (bs : List β) :
    Legible (List.Forall₂ P bs) fun as => String.join (as.map text) := by
  intro as as' x y has has' heq
  induction has generalizing as' with
  | nil =>
      cases has'
      rfl
  | cons hb _ ih =>
      cases has' with
      | cons hb' hrest' =>
          simp only [List.map_cons, String.join_cons, String.toList_append,
            List.append_assoc] at heq
          obtain rfl := h _ _ _ _ _ hb hb' heq
          rw [ih _ hrest' (List.append_cancel_left heq)]

end Legible

theorem intercalate_cons (sep s : String) (ss : List String) :
    sep.intercalate (s :: ss) = s ++ String.join (ss.map (sep ++ ·)) := by
  induction ss generalizing s with
  | nil => simp
  | cons s' ss ih =>
      rw [String.intercalate_cons_cons, ih]
      simp [String.append_assoc]

theorem Legible.intercalate {α β : Type} {P : β → α → Prop} {text : α → String} (sep : String)
    (h : ∀ b, Legible (P b) text) (bs : List β) :
    Legible (List.Forall₂ P bs) fun as => sep.intercalate (as.map text) := by
  intro as as' x y has has' heq
  cases has with
  | nil =>
      cases has'
      rfl
  | cons hb hrest =>
      cases has' with
      | cons hb' hrest' =>
          simp only [List.map_cons, intercalate_cons, String.toList_append, List.append_assoc,
            List.map_map] at heq
          obtain rfl := h _ _ _ _ _ hb hb' heq
          rw [join (fun b => (h b).prepend sep) _ _ _ _ _ hrest hrest'
            (List.append_cancel_left heq)]

theorem isDigit_of_mem_decimal {n : Nat} {c : Char} (h : c ∈ (decimal n).toList) :
    c.isDigit = true := by
  rw [toList_decimal] at h
  exact (Digits.ofNat n).all_digits c h

theorem takeWhile_isDigit_decimal (n : Nat) {x : List Char}
    (hx : ∀ c ∈ x.head?, c.isDigit = false) :
    ((decimal n).toList ++ x).takeWhile Char.isDigit = (decimal n).toList := by
  rw [toList_decimal]
  exact (Digits.ofNat n).takeWhile_isDigit hx

theorem decimal_append_cancel {m n : Nat} {x y : List Char}
    (hx : ∀ c ∈ x.head?, c.isDigit = false) (hy : ∀ c ∈ y.head?, c.isDigit = false)
    (h : (decimal m).toList ++ x = (decimal n).toList ++ y) : m = n ∧ x = y := by
  have hdigits : (decimal m).toList = (decimal n).toList := by
    rw [← takeWhile_isDigit_decimal m hx, h, takeWhile_isDigit_decimal n hy]
  have hvalue : (Digits.ofNat m).value = (Digits.ofNat n).value := by
    rw [toList_decimal, toList_decimal] at hdigits
    rw [Digits.ext hdigits]
  rw [hdigits] at h
  exact ⟨by simpa using hvalue, List.append_cancel_left h⟩

theorem cons_ne_decimal_append {c : Char} (hc : c.isDigit = false) (n : Nat) (x y : List Char) :
    c :: x ≠ (decimal n).toList ++ y := by
  intro h
  cases hn : (decimal n).toList with
  | nil => exact (Digits.ofNat n).nonempty (by rw [← toList_decimal, hn])
  | cons d ds =>
      rw [hn, List.cons_append] at h
      obtain ⟨rfl, -⟩ := List.cons.inj h
      have hd : c.isDigit = true := isDigit_of_mem_decimal (n := n) (by rw [hn]; exact .head ds)
      rw [hc] at hd
      cases hd

/-- The values behind the first one, each with a separator in front. -/
def laterValues (vs : List UInt64) : List Char :=
  vs.flatMap fun v => ',' :: ' ' :: (decimal v.toNat).toList

theorem toList_values_cons (v : UInt64) (vs : List UInt64) :
    (", ".intercalate ((v :: vs).map fun v => decimal v.toNat)).toList =
      (decimal v.toNat).toList ++ laterValues vs := by
  rw [List.map_cons, intercalate_cons, String.toList_append, String.toList_join, laterValues]
  simp [List.flatMap_map]

theorem not_isDigit_head_laterValues (vs : List UInt64) (x : List Char) :
    ∀ c ∈ (laterValues vs ++ ']' :: x).head?, c.isDigit = false := by
  cases vs <;> simp [laterValues]

theorem laterValues_cancel {vs ws : List UInt64} {x y : List Char}
    (h : laterValues vs ++ ']' :: x = laterValues ws ++ ']' :: y) : vs = ws := by
  induction vs generalizing ws with
  | nil =>
      cases ws with
      | nil => rfl
      | cons w ws => simp [laterValues] at h
  | cons v vs ih =>
      cases ws with
      | nil => simp [laterValues] at h
      | cons w ws =>
          simp only [laterValues, List.flatMap_cons, List.cons_append, List.append_assoc,
            List.cons.injEq, true_and] at h
          obtain ⟨hv, hrest⟩ := decimal_append_cancel (not_isDigit_head_laterValues vs x)
            (not_isDigit_head_laterValues ws y) h
          rw [UInt64.toNat_inj.mp hv, ih hrest]

theorem legible_values : Legible (fun _ => True) fun vs : List UInt64 =>
    ", ".intercalate (vs.map fun v => decimal v.toNat) ++ "]" := by
  intro vs ws x y _ _ h
  simp only [String.toList_append, List.append_assoc] at h
  cases vs with
  | nil =>
      cases ws with
      | nil => rfl
      | cons w ws =>
          rw [toList_values_cons, List.append_assoc] at h
          exact absurd h (cons_ne_decimal_append (by decide) _ _ _)
  | cons v vs =>
      rw [toList_values_cons, List.append_assoc] at h
      cases ws with
      | nil => exact absurd h.symm (cons_ne_decimal_append (by decide) _ _ _)
      | cons w ws =>
          rw [toList_values_cons, List.append_assoc] at h
          obtain ⟨hv, hrest⟩ := decimal_append_cancel (not_isDigit_head_laterValues vs x)
            (not_isDigit_head_laterValues ws y) h
          rw [UInt64.toNat_inj.mp hv, laterValues_cancel hrest]

/-- A trace shows its draws. -/
theorem legible_traceText (magnitude : List UInt64 → UInt64) (negative : Bool) :
    Legible (fun _ => True) fun vs => traceText vs (magnitude vs) negative := by
  have htext : (fun vs => traceText vs (magnitude vs) negative) = fun vs =>
      "[" ++ (", ".intercalate (vs.map fun v => decimal v.toNat) ++ "]" ++
        (" = **" ++ ((if negative then "-" else "") ++ decimal (magnitude vs).toNat) ++ "**")) := by
    funext vs
    have hbracket : "] = **" = "]" ++ " = **" := by rfl
    simp only [traceText, bracketed, hbracket, String.append_assoc]
  rw [htext]
  exact (legible_values.append _).prepend "["

theorem Term.legible_of_trace {text : TermResult → String} (before : DiceRoll → String)
    (after : String) (h : ∀ (d : DiceRoll) vs,
      text (d.result vs) = before d ++ (traceText vs (d.magnitude vs) d.negative ++ after))
    (t : Term) : Legible t.Yields text := by
  intro r r' x y hr hr' heq
  cases t with
  | dice d =>
      obtain ⟨-, vs, -, rfl⟩ := hr
      obtain ⟨-, vs', -, rfl⟩ := hr'
      rw [h, h] at heq
      have hlegible := ((legible_traceText d.magnitude d.negative).append
        fun _ => after).prepend (before d)
      rw [hlegible vs vs' x y trivial trivial heq]
  | constant c =>
      obtain ⟨total, htotal, rfl⟩ := hr
      obtain ⟨total', htotal', rfl⟩ := hr'
      rw [Option.some.inj (htotal.symm.trans htotal')]

/-- The trace of a result, if it has one, with a separator in front. -/
def TermResult.separatedTrace (r : TermResult) : String :=
  match r.trace with
  | some trace => " * " ++ trace
  | none => ""

theorem Term.legible_separatedTrace (t : Term) : Legible t.Yields TermResult.separatedTrace := by
  apply legible_of_trace (fun _ => " * ") ""
  intro d vs
  simp [TermResult.separatedTrace, DiceRoll.result]

theorem Term.legible_termLine (t : Term) : Legible t.Yields BatchResult.verbose.termLine := by
  apply legible_of_trace (fun d => "* `" ++ d.raw ++ "` ") "\n"
  intro d vs
  simp [BatchResult.verbose.termLine, DiceRoll.result, String.append_assoc]

theorem join_separatedTrace (results : List TermResult) :
    String.join (results.map TermResult.separatedTrace) =
      String.join ((results.filterMap TermResult.trace).map (" * " ++ ·)) := by
  induction results with
  | nil => rfl
  | cons r results ih =>
      cases htrace : r.trace <;> simp [TermResult.separatedTrace, htrace, ih]

theorem Batch.Yields.eq_of_results {b : Batch} {t : Thresholds} {r r' : BatchResult}
    (h : b.Yields t r) (h' : b.Yields t r') (heq : r.results = r'.results) : r = r' := by
  have hsum := h.2
  rw [heq, h'.2] at hsum
  exact (Option.some.inj hsum).symm

theorem Batch.Yields.separated_traces {b : Batch} {t : Thresholds} {r : BatchResult}
    (h : b.Yields t r) : " * " ++ " * ".intercalate r.traces =
      String.join (r.results.map TermResult.separatedTrace) := by
  obtain ⟨lead, rest, ⟨-, vs, -, rfl⟩, -, hresults⟩ := List.forall₂_cons_left_iff.mp h.1
  have htrace : (b.lead.result vs).trace =
    some (traceText vs (b.lead.magnitude vs) b.lead.negative) := rfl
  rw [join_separatedTrace, BatchResult.traces, hresults, List.filterMap_cons_some htrace,
    intercalate_cons]
  simp [String.append_assoc]

theorem Batch.legible_traces (b : Batch) (t : Thresholds) :
    Legible (b.Yields t) fun r => " * ".intercalate r.traces := by
  intro r r' x y hr hr' heq
  have hjoin : (String.join (r.results.map TermResult.separatedTrace)).toList ++ x =
      (String.join (r'.results.map TermResult.separatedTrace)).toList ++ y := by
    rw [← hr.separated_traces, ← hr'.separated_traces, String.toList_append, String.toList_append,
      List.append_assoc, List.append_assoc, heq]
  exact hr.eq_of_results hr'
    (Legible.join Term.legible_separatedTrace b.terms _ _ _ _ hr.1 hr'.1 hjoin)

theorem Batch.legible_compact (formula : String) (t : Thresholds) (b : Batch) :
    Legible (b.Yields t) (·.compact formula) := by
  have htext : (fun r : BatchResult => r.compact formula) = fun r =>
      "`" ++ formula ++ "` | " ++ (" * ".intercalate r.traces ++ (" | " ++ r.text ++ r.marks)) := by
    funext r
    simp only [BatchResult.compact, String.append_assoc]
  rw [htext]
  exact ((b.legible_traces t).append _).prepend _

theorem Batch.legible_verbose (formula : String) (index count : Nat) (t : Thresholds) (b : Batch) :
    Legible (b.Yields t) (·.verbose formula index count) := by
  intro r r' x y hr hr' heq
  simp only [BatchResult.verbose, String.toList_append, List.append_assoc] at heq
  exact hr.eq_of_results hr' (Legible.join Term.legible_termLine b.terms _ _ _ _ hr.1 hr'.1
    (List.append_cancel_left heq))

theorem forall₂_zipIdx {α β : Type} {P : α → β → Prop} {as : List α} {bs : List β}
    (h : List.Forall₂ P as bs) (n : Nat) :
    List.Forall₂ (fun a b => P a.1 b.1 ∧ b.2 = a.2) (as.zipIdx n) (bs.zipIdx n) := by
  induction h generalizing n with
  | nil => exact .nil
  | cons hfirst _ ih => exact .cons ⟨hfirst, rfl⟩ (ih (n + 1))

theorem Batch.legible_verbose_zipIdx (formula : String) (count : Nat) (t : Thresholds)
    (b : Batch × Nat) : Legible (fun r : BatchResult × Nat => b.1.Yields t r.1 ∧ r.2 = b.2)
      fun r => r.1.verbose formula r.2 count := by
  obtain ⟨b, i⟩ := b
  rintro ⟨r, _⟩ ⟨r', _⟩ x y ⟨hr, rfl⟩ ⟨hr', rfl⟩ heq
  rw [b.legible_verbose formula _ count t r r' x y hr hr' heq]

section

variable {bs : List Batch} {t : Thresholds} {R R' : Results} {formula : String}

theorem eq_of_compact_eq (h : List.Forall₂ (fun b r => b.Yields t r) bs R.batches)
    (h' : List.Forall₂ (fun b r => b.Yields t r) bs R'.batches)
    (heq : R.compact formula = R'.compact formula) : R = R' := by
  have hlegible := Legible.intercalate "\n" (Batch.legible_compact formula t) bs
  exact congrArg Results.mk (hlegible.inj h h' heq)

theorem eq_of_verbose_eq (h : List.Forall₂ (fun b r => b.Yields t r) bs R.batches)
    (h' : List.Forall₂ (fun b r => b.Yields t r) bs R'.batches)
    (heq : R.verbose formula = R'.verbose formula) : R = R' := by
  have hcount : R'.batches.length = R.batches.length := h'.length_eq.symm.trans h.length_eq
  simp only [Results.verbose, List.mapIdx_eq_zipIdx_map, hcount] at heq
  have hlegible := Legible.intercalate "\n"
    (Batch.legible_verbose_zipIdx formula R.batches.length t) bs.zipIdx
  have hzip := hlegible.inj (forall₂_zipIdx h 0) (forall₂_zipIdx h' 0) heq
  have hbatches := congrArg (List.map Prod.fst) hzip
  rw [List.zipIdx_map_fst, List.zipIdx_map_fst] at hbatches
  exact congrArg Results.mk hbatches

end

theorem yields_of_roll {σ : Type} {src : Source σ} {s s' : σ} {f : String} {t : Thresholds}
    {R : Results} (h : roll f t src s = (.ok R, s')) :
    ∃ bs, parse f = .ok bs ∧ List.Forall₂ (fun b r => b.Yields t r) bs R.batches := by
  cases hparse : parse f with
  | error e => simp [roll, Query.ofFormula, hparse, bind, Except.bind] at h
  | ok bs =>
      rw [roll_of_parse hparse] at h
      cases hrun : (evaluateAll bs t src).runOn s with
      | mk outcome last =>
          rw [hrun] at h
          cases outcome with
          | error e => simp [Except.mapError] at h
          | ok R' =>
              cases h
              exact ⟨bs, rfl, (runOn_evaluateAll_eq_ok_iff.mp hrun).1⟩

/-- Two rolls of a formula that succeed, on whatever sources, are shown by the same line, and by the
same block, exactly when their results compare equal. So either view tells all that a roll came
to. -/
theorem render_eq_iff {σ τ : Type} (src : Source σ) (src' : Source τ) (s s' : σ) (u u' : τ)
    (f : String) (t : Thresholds) (R R' : Results) (h : roll f t src s = (.ok R, s'))
    (h' : roll f t src' u = (.ok R', u')) :
    (R.render .compact f = R'.render .compact f ↔ (R == R') = true) ∧
      (R.render .verbose f = R'.render .verbose f ↔ (R == R') = true) := by
  obtain ⟨bs, hparse, hyields⟩ := yields_of_roll h
  obtain ⟨bs', hparse', hyields'⟩ := yields_of_roll h'
  obtain rfl := Except.ok.inj (hparse.symm.trans hparse')
  rw [Results.beq_iff_eq hyields hyields']
  constructor
  · exact ⟨eq_of_compact_eq hyields hyields', fun heq => heq ▸ rfl⟩
  · exact ⟨eq_of_verbose_eq hyields hyields', fun heq => heq ▸ rfl⟩

/-- Two rolls with the same totals and verdicts, but with their draws in another order, are told
apart by both views. -/
theorem render_eq_iff_reordered :
    ∃ R R' : Results,
      roll "2d6! - 1x2" ⟨some 8, none⟩ Script.source ⟨[6, 2, 1, 3, 5], .highest⟩ =
        (.ok R, ⟨[], .highest⟩) ∧
      roll "2d6! - 1x2" ⟨some 8, none⟩ Script.source.counted (⟨[1, 6, 2, 5, 3], .highest⟩, 0) =
        (.ok R', ⟨[], .highest⟩, 5) ∧
      R.text = R'.text ∧ R.render .compact "2d6! - 1x2" ≠ R'.render .compact "2d6! - 1x2" ∧
      R.render .verbose "2d6! - 1x2" ≠ R'.render .verbose "2d6! - 1x2" := by
  have hparse : parse "2d6! - 1x2" = .ok (List.replicate 2
      ⟨⟨"2d6!", false, 2, 6, some (.explode 0)⟩, [.constant ⟨"-1", true, 1⟩]⟩) := by decide +kernel
  -- The results are kept as variables below, so that no view is computed.
  obtain ⟨R, R', h, h', htext, hne⟩ : ∃ R R' : Results,
      roll "2d6! - 1x2" ⟨some 8, none⟩ Script.source ⟨[6, 2, 1, 3, 5], .highest⟩ =
        (.ok R, ⟨[], .highest⟩) ∧
      roll "2d6! - 1x2" ⟨some 8, none⟩ Script.source.counted (⟨[1, 6, 2, 5, 3], .highest⟩, 0) =
        (.ok R', ⟨[], .highest⟩, 5) ∧
      R.text = R'.text ∧ (R == R') = false :=
    ⟨_, _, (roll_of_parse hparse _).trans rfl, (roll_of_parse hparse _).trans rfl, rfl, rfl⟩
  obtain ⟨hcompact, hverbose⟩ := render_eq_iff _ _ _ _ _ _ _ _ R R' h h'
  have hdiffer : ¬(R == R') = true := Bool.eq_false_iff.mp hne
  exact ⟨R, R', h, h', htext, mt hcompact.mp hdiffer, mt hverbose.mp hdiffer⟩

end DiceNotation
