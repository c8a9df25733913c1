import DiceNotation.Proofs.Beginnings

/-! # What the rules match

The rules see a text one character after another, and yet they match whole tokens
only: where the text has been scanned, each rule either moves past the tokens that
it consists of or fails at a place that the next tokens decide. Of the attempts it
is enough to know the rules that failed where the cursor stands, as long as none
failed further ahead.
-/

namespace DiceNotation

namespace Attempts

variable {a b : Attempts} {p q : Nat} {r r' : Rule} {rs : List Rule}

/-- The attempts once a rule has failed with nothing to note within. -/
def add (a : Attempts) (p : Nat) (r : Rule) : Attempts :=
  if a.position = p then ⟨p, a.rules ++ [r]⟩ else if a.position < p then ⟨p, [r]⟩ else a

/-- These rules are known to have failed at a position, and none to have failed further ahead. -/
def Stand (a : Attempts) (p : Nat) (rs : List Rule) : Prop :=
  a = ⟨p, rs⟩ ∨ a.position < p ∧ rs = []

theorem stand_mk (p : Nat) (rs : List Rule) : (⟨p, rs⟩ : Attempts).Stand p rs := .inl rfl

theorem Stand.le (h : a.Stand p rs) : a.position ≤ p := by
  rcases h with rfl | ⟨hlt, -⟩
  · exact Nat.le_refl p
  · exact Nat.le_of_lt hlt

/-- Further ahead nothing has failed yet. -/
theorem Stand.ahead (h : a.Stand p rs) (hq : p < q) : a.Stand q [] :=
  .inr ⟨Nat.lt_of_le_of_lt h.le hq, rfl⟩

theorem Stand.add_eq (h : a.Stand p rs) (r : Rule) : a.add p r = ⟨p, rs ++ [r]⟩ := by
  rcases h with rfl | ⟨hlt, rfl⟩
  · exact if_pos rfl
  · rw [add, if_neg (Nat.ne_of_lt hlt), if_pos hlt]
    rfl

theorem add_of_lt (h : p < a.position) (r : Rule) : a.add p r = a := by
  rw [add, if_neg (Nat.ne_of_gt h), if_neg (Nat.lt_asymm h)]

theorem note_of_lt (h : p < b.position) : note a r p b = b := by
  simp [note, countAt, Nat.ne_of_gt h, Nat.lt_asymm h]

theorem note_self : note a r p a = a.add p r := by
  rcases Nat.lt_trichotomy a.position p with h | rfl | h
  · simp [note, countAt, add, Nat.ne_of_lt h, h]
  · simp [note, countAt, add]
  · rw [note_of_lt h, add_of_lt h]

/-- A rule with a single failure within leaves it at that. -/
theorem note_add {r₁ : Rule} : note a r p (a.add p r₁) = a.add p r₁ := by
  rcases Nat.lt_trichotomy a.position p with h | rfl | h
  · simp [note, countAt, add, Nat.ne_of_lt h, h]
  · simp [note, countAt, add]
  · rw [add_of_lt h, note_of_lt h]

/-- Two failures within are put together as one. -/
theorem note_add_add {r₁ r₂ : Rule} : note a r p ((a.add p r₁).add p r₂) = a.add p r := by
  rcases Nat.lt_trichotomy a.position p with h | rfl | h
  · simp [note, countAt, add, Nat.ne_of_lt h, h]
  · simp [note, countAt, add]
  · rw [add_of_lt h, add_of_lt h, add_of_lt h, note_of_lt h]

end Attempts

namespace Token

/-- What is scanned first stands at the beginning of the text, and the rest is scanned behind it. -/
theorem scan_cons {cs rest : List Char} {t : Token} {ts : List Token}
    (h : scan cs = (t :: ts, rest)) : ∃ ds, cs = t.chars ++ ds ∧ scan ds = (ts, rest) ∧
      (t.IsNumber → ∀ c ∈ ds.head?, c.isDigit = false) := by
  cases starts_of_scan h with
  | @cons _ _ ds _ hend _ =>
      refine ⟨ds, rfl, ?_, hend⟩
      rw [scan_chars_append t rfl fun ht => ne_number_of_head (hend ht)] at h
      obtain ⟨htokens, hrest⟩ := Prod.ext_iff.mp h
      exact Prod.ext (List.cons.inj htokens).2 hrest

end Token

/-- The text ahead has these tokens, and then a rest that begins with none. -/
def Cursor.Sees (c : Cursor) (ts : List Token) (rest : List Char) : Prop :=
  Token.scan c.ahead = (ts, rest)

/-- The cursor behind some tokens, with other attempts. -/
def Cursor.moved (c : Cursor) (us : List Token) (a : Attempts) : Cursor :=
  ⟨c.ahead.drop (Token.text us).length, c.position + (Token.text us).length, a⟩

namespace Cursor

variable {c : Cursor} {t : Token} {ts us vs : List Token} {rest : List Char} {a b : Attempts}

@[simp] theorem position_moved :
    (c.moved us a).position = c.position + (Token.text us).length := rfl

@[simp] theorem attempts_moved : (c.moved us a).attempts = a := rfl

@[simp] theorem moved_moved : (c.moved us a).moved vs b = c.moved (us ++ vs) b := by
  simp [moved, Nat.add_assoc]

theorem Sees.ahead_eq (h : c.Sees ts rest) : c.ahead = Token.text ts ++ rest := by
  have htext := Token.text_scan c.ahead
  rw [h] at htext
  exact htext.symm

theorem Sees.ahead_ne_nil (h : c.Sees (t :: ts) rest) : c.ahead ≠ [] := by
  intro hnil
  have htext := h.ahead_eq.symm.trans hnil
  exact Token.chars_ne_nil t (List.append_eq_nil_iff.mp (List.append_eq_nil_iff.mp htext).1).1

theorem Sees.moved (h : c.Sees (us ++ ts) rest) (a : Attempts) : (c.moved us a).Sees ts rest := by
  induction us generalizing c with
  | nil => exact h
  | cons u us ih =>
      obtain ⟨ds, hahead, hscan, -⟩ := Token.scan_cons h
      have hrest : (Cursor.mk ds c.position c.attempts).Sees (us ++ ts) rest := hscan
      have hdrop : c.ahead.drop (Token.text (u :: us)).length = ds.drop (Token.text us).length := by
        simp [hahead]
      unfold Sees Cursor.moved
      rw [hdrop]
      exact ih hrest

theorem Sees.past (h : c.Sees (t :: ts) rest) (a : Attempts) : (c.moved [t] a).Sees ts rest := by
  have hone : c.Sees ([t] ++ ts) rest := h
  exact hone.moved a

theorem Sees.retry (h : c.Sees ts rest) (a : Attempts) : (c.moved [] a).Sees ts rest := h

theorem stand_retry (c : Cursor) (rs : List Rule) :
    (c.moved [] ⟨c.position, rs⟩).attempts.Stand (c.moved [] ⟨c.position, rs⟩).position rs :=
  .inl rfl

end Cursor

namespace Matcher

variable {α β : Type} {m m' : Matcher α} {f : α → Matcher β} {c c' : Cursor} {x : α}
  {a : Attempts} {r : Rule}

theorem bind_ok (h : m c = .ok (x, c')) : (m >>= f) c = f x c' := by
  change (m c >>= fun (x, c') => f x c') = f x c'
  rw [h]
  rfl

theorem bind_error (h : m c = .error a) : (m >>= f) c = .error a := by
  change (m c >>= fun (x, c') => f x c') = _
  rw [h]
  rfl

theorem map_ok {f : α → β} (h : m c = .ok (x, c')) : (f <$> m) c = .ok (f x, c') := by
  rw [map_eq_pure_bind, bind_ok h]
  rfl

theorem map_error {f : α → β} (h : m c = .error a) : (f <$> m) c = .error a := by
  rw [map_eq_pure_bind, bind_error h]

theorem optional_ok (h : m c = .ok (x, c')) : optional m c = .ok (some x, c') := by
  rw [optional, h]

theorem optional_error (h : m c = .error a) : optional m c = .ok (none, c.moved [] a) := by
  rw [optional, h]
  rfl

theorem either_ok (h : m c = .ok (x, c')) : either m m' c = .ok (x, c') := by
  rw [either, h]

theorem either_error (h : m c = .error a) : either m m' c = m' (c.moved [] a) := by
  rw [either, h]
  rfl

theorem rule_ok (h : m c = .ok (x, c')) : rule r m c = .ok (x, c') := by
  rw [rule, h]

theorem rule_error {b : Attempts} (h : m c = .error a)
    (hnote : c.attempts.note r c.position a = b) : rule r m c = .error b := by
  rw [rule, h, ← hnote]

section

variable {t : Token} {ts : List Token} {rest : List Char} {n : Digits}

theorem literal_ok (h : c.Sees (t :: ts) rest) :
    literal t.chars c = .ok ((), c.moved [t] c.attempts) := by
  obtain ⟨ds, hahead, -⟩ := Token.scan_cons h
  have hprefix : t.chars.isPrefixOf c.ahead = true := by simp [hahead]
  rw [literal, if_pos hprefix]
  simp [Cursor.moved]

theorem literal_error (h : c.Sees ts rest) (ht : ¬ t.IsNumber) (hts : ∀ us, ts ≠ t :: us) :
    literal t.chars c = .error c.attempts := by
  refine if_neg fun hprefix => ?_
  obtain ⟨ds, hds⟩ := List.isPrefixOf_iff_prefix.mp hprefix
  have hscan : Token.scan (t.chars ++ ds) = (t :: (Token.scan ds).1, (Token.scan ds).2) :=
    Token.scan_chars_append t rfl fun hnumber => absurd hnumber ht
  rw [hds, h] at hscan
  exact hts _ (congrArg Prod.fst hscan)

theorem digits_ok (h : c.Sees (.number n :: ts) rest) :
    digits c = .ok (n, c.moved [.number n] c.attempts) := by
  obtain ⟨ds, hahead, -, hends⟩ := Token.scan_cons h
  have hhead := hends trivial
  have htake : c.ahead.takeWhile Char.isDigit = n.chars := by
    rw [hahead]
    exact n.takeWhile_isDigit hhead
  have hdrop : c.ahead.dropWhile Char.isDigit = c.ahead.drop n.chars.length := by
    have hsplit := List.takeWhile_append_dropWhile (p := Char.isDigit) (l := c.ahead)
    rw [htake] at hsplit
    rw [List.append_cancel_left (hsplit.trans hahead), hahead]
    exact List.drop_left.symm
  have hne : ¬ c.ahead.takeWhile Char.isDigit = [] := by
    rw [htake]
    exact n.nonempty
  rw [digits, dif_neg hne]
  obtain ⟨chars, nonempty, all⟩ := n
  obtain rfl := htake
  simp [Cursor.moved, Token.chars, Digits.width, hdrop]

theorem digits_error (h : c.Sees ts rest) (hts : ∀ m us, ts ≠ .number m :: us) :
    digits c = .error c.attempts := by
  have hhead : ∀ d ∈ c.ahead.head?, d.isDigit = false := by
    apply Token.head_of_ne_number
    rwa [h]
  refine dif_pos ?_
  cases hahead : c.ahead with
  | nil => rfl
  | cons d ds =>
      rw [hahead] at hhead
      exact List.takeWhile_cons_of_neg (Bool.eq_false_iff.mp (hhead d rfl))

theorem digitRun_ok (h : c.Sees (.number n :: ts) rest) :
    digitRun r c = .ok (n, c.moved [.number n] c.attempts) :=
  rule_ok (digits_ok h)

theorem digitRun_error (h : c.Sees ts rest) (hts : ∀ m us, ts ≠ .number m :: us) :
    digitRun r c = .error (c.attempts.add c.position r) :=
  rule_error (digits_error h hts) Attempts.note_self

variable {rs : List Rule} {us : List Token}

theorem literal_moved (h : c.Sees (us ++ t :: ts) rest) (a : Attempts) :
    literal t.chars (c.moved us a) = .ok ((), c.moved (us ++ [t]) a) := by
  rw [← Cursor.moved_moved]
  exact literal_ok (h.moved a)

theorem digitRun_moved (h : c.Sees (us ++ .number n :: ts) rest) (r : Rule) (a : Attempts) :
    digitRun r (c.moved us a) = .ok (n, c.moved (us ++ [.number n]) a) := by
  rw [← Cursor.moved_moved]
  exact digitRun_ok (h.moved a)

theorem number_ok {o : Option Digits} (h : c.Sees (numberTokens o ++ ts) rest)
    (hend : o = none → ∀ n us, ts ≠ .number n :: us) (hstand : c.attempts.Stand c.position []) :
    ∃ b, optional (digitRun r) c = .ok (o, c.moved (numberTokens o) b) ∧
      b.Stand (c.position + (Token.text (numberTokens o)).length)
        (if o = none then [r] else []) := by
  cases o with
  | none =>
      refine ⟨_, optional_error (digitRun_error h (hend rfl)), ?_⟩
      rw [hstand.add_eq]
      exact .inl rfl
  | some n =>
      refine ⟨_, optional_ok (digitRun_ok h), ?_⟩
      exact hstand.ahead (Nat.lt_add_of_pos_right (Token.length_text_pos _ _))

theorem marked_ok {m : ModifierText} (h : c.Sees (m.tokens ++ ts) rest)
    (hend : m.amount = none → ∀ n us, ts ≠ .number n :: us)
    (hstand : c.attempts.Stand c.position rs) :
    ∃ b, marked r m.mark c = .ok (m, c.moved m.tokens b) ∧
      b.Stand (c.position + (Token.text m.tokens).length)
        (if m.amount = none then [.number] else []) := by
  have hmark : literal m.mark.chars c = .ok ((), c.moved [.mark m.mark] c.attempts) :=
    literal_ok (t := .mark m.mark) h
  have hahead : c.attempts.Stand (c.moved [.mark m.mark] c.attempts).position [] :=
    hstand.ahead (Nat.lt_add_of_pos_right (Token.length_text_pos _ _))
  obtain ⟨b, hnumber, hb⟩ := number_ok (r := .number)
    (Cursor.Sees.past h c.attempts) hend hahead
  refine ⟨b, ?_, ?_⟩
  · apply rule_ok
    rw [bind_ok hmark, bind_ok hnumber, Cursor.moved_moved]
    rfl
  · simpa [ModifierText.tokens, Nat.add_assoc] using hb

theorem marked_error {m : Mark} (h : c.Sees ts rest) (hts : ∀ us, ts ≠ .mark m :: us) :
    marked r m c = .error (c.attempts.add c.position r) :=
  rule_error (bind_error (literal_error (t := .mark m) h id hts)) Attempts.note_self

/-- The rules that have failed right behind dice with this modifier. -/
def tried : Option ModifierText → List Rule
  | none => [.explode, .keepHigh, .keepLow]
  | some m => if m.amount = none then [.number] else []

/-- The tokens do not go on with the modifier. -/
def EndsModifier : Option ModifierText → List Token → Prop
  | none, ts => ∀ m us, ts ≠ .mark m :: us
  | some m, ts => m.amount = none → ∀ n us, ts ≠ .number n :: us

theorem either_marked_error {m : Mark} {m' : Matcher ModifierText} (h : c.Sees ts rest)
    (hts : ∀ us, ts ≠ .mark m :: us) (hstand : c.attempts.Stand c.position rs) :
    either (marked r m) m' c = m' (c.moved [] ⟨c.position, rs ++ [r]⟩) := by
  rw [← hstand.add_eq]
  exact either_error (marked_error h hts)

theorem modifier_error (h : c.Sees ts rest) (hts : ∀ m us, ts ≠ .mark m :: us)
    (hstand : c.attempts.Stand c.position []) :
    modifier c = .error ⟨c.position, [.explode, .keepHigh, .keepLow]⟩ := by
  rw [modifier, either_marked_error h (hts _) hstand,
    either_marked_error (h.retry _) (hts _) (c.stand_retry _),
    marked_error ((h.retry _).retry _) (hts _), (Cursor.stand_retry _ _).add_eq]
  rfl

theorem modifier_ok {o : Option ModifierText} (h : c.Sees (modifierTokens o ++ ts) rest)
    (hend : EndsModifier o ts) (hstand : c.attempts.Stand c.position []) :
    ∃ b, optional modifier c = .ok (o, c.moved (modifierTokens o) b) ∧
      b.Stand (c.position + (Token.text (modifierTokens o)).length) (tried o) := by
  cases o with
  | none => exact ⟨_, optional_error (modifier_error h hend hstand), .inl rfl⟩
  | some m =>
      -- The marks that come before this one in the list of alternatives fail first.
      have hothers (m' : Mark) (hne : m.mark ≠ m') (us : List Token) :
          modifierTokens (some m) ++ ts ≠ .mark m' :: us := by
        intro heq
        exact hne (Token.mark.inj (List.cons.inj heq).1)
      obtain ⟨mark, amount⟩ := m
      cases mark with
      | explode =>
          obtain ⟨b, hmarked, hb⟩ := marked_ok (r := .explode) h hend hstand
          exact ⟨b, optional_ok (either_ok hmarked), hb⟩
      | keepHigh =>
          obtain ⟨b, hmarked, hb⟩ :=
            marked_ok (r := .keepHigh) (h.retry _) hend (c.stand_retry [.explode])
          refine ⟨b, optional_ok ?_, hb⟩
          rw [modifier, either_marked_error h (hothers .explode (by simp)) hstand]
          exact either_ok hmarked
      | keepLow =>
          obtain ⟨b, hmarked, hb⟩ :=
            marked_ok (r := .keepLow) (h.retry _) hend (c.stand_retry [.explode, .keepHigh])
          refine ⟨b, optional_ok ?_, hb⟩
          rw [modifier, either_marked_error h (hothers .explode (by simp)) hstand,
            either_marked_error (h.retry _) (hothers .keepHigh (by simp)) (c.stand_retry _)]
          exact hmarked

theorem dice_ok {d : DiceText} (h : c.Sees (d.tokens ++ ts) rest)
    (hend : EndsModifier d.modifier ts) (hstand : c.attempts.Stand c.position []) :
    ∃ b, dice c = .ok (d, c.moved d.tokens b) ∧
      b.Stand (c.position + (Token.text d.tokens).length) (tried d.modifier) := by
  obtain ⟨count, faces, o⟩ := d
  rw [DiceText.tokens, List.append_assoc] at h
  obtain ⟨a, hcount, ha⟩ := number_ok (r := .count) h (by simp) hstand
  have hdie : literal ['d'] (c.moved (numberTokens count) a) = _ := literal_moved (t := .die) h a
  have hbehind :
      c.Sees ((numberTokens count ++ [.die]) ++ .number faces :: (modifierTokens o ++ ts)) rest := by
    simpa using h
  have hfaces := digitRun_moved hbehind .faces a
  have hlast :
      c.Sees ((numberTokens count ++ [.die] ++ [.number faces]) ++ (modifierTokens o ++ ts)) rest := by
    simpa using h
  have hahead :
      a.Stand (c.moved (numberTokens count ++ [.die] ++ [.number faces]) a).position [] := by
    refine ha.ahead ?_
    simp [Token.chars]
  obtain ⟨b, hmodifier, hb⟩ := modifier_ok (hlast.moved a) hend hahead
  refine ⟨b, ?_, ?_⟩
  · apply rule_ok
    rw [bind_ok hcount, bind_ok hdie, bind_ok hfaces, bind_ok hmodifier, Cursor.moved_moved]
    simp only [DiceText.tokens, List.append_assoc]
    rfl
  · simpa [DiceText.tokens, Nat.add_assoc] using hb

theorem dice_without_faces {o : Option Digits} (h : c.Sees (numberTokens o ++ .die :: ts) rest)
    (hts : ∀ n us, ts ≠ .number n :: us) (hstand : c.attempts.Stand c.position []) :
    dice c = .error
      ⟨c.position + (Token.text (numberTokens o ++ [.die])).length, [.faces]⟩ := by
  obtain ⟨a, hcount, ha⟩ := number_ok (r := .count) h (by simp) hstand
  have hdie : literal ['d'] (c.moved (numberTokens o) a) = _ := literal_moved (t := .die) h a
  have hbehind : c.Sees ((numberTokens o ++ [.die]) ++ ts) rest := by simpa using h
  have hahead : a.Stand (c.moved (numberTokens o ++ [.die]) a).position [] := by
    refine ha.ahead ?_
    simp [Token.chars]
  have hfaces := digitRun_error (r := .faces) (hbehind.moved a) hts
  rw [Cursor.attempts_moved, hahead.add_eq] at hfaces
  refine rule_error ?_ (Attempts.note_of_lt (b := ⟨_, [.faces]⟩) ?_)
  · rw [bind_ok hcount, bind_ok hdie, bind_error hfaces]
    rfl
  · simp [Token.chars]

theorem dice_without_die (h : c.Sees (.number n :: ts) rest) (hts : ∀ us, ts ≠ .die :: us)
    (hstand : c.attempts.Stand c.position []) :
    dice c = .error ⟨c.position, [.dice]⟩ := by
  have hcount := optional_ok (digitRun_ok (r := .count) h)
  have hdie : literal ['d'] (c.moved [.number n] c.attempts) = _ :=
    literal_error (t := .die) (h.past _) id hts
  refine rule_error ?_ (Attempts.note_self.trans (hstand.add_eq .dice))
  rw [bind_ok hcount, bind_error hdie]
  rfl

theorem dice_elsewhere (h : c.Sees ts rest) (hnumber : ∀ n us, ts ≠ .number n :: us)
    (hdie : ∀ us, ts ≠ .die :: us) (hstand : c.attempts.Stand c.position []) :
    dice c = .error ⟨c.position, [.count]⟩ := by
  have hcount := optional_error (digitRun_error (r := .count) h hnumber)
  have hdie : literal ['d'] (c.moved [] (c.attempts.add c.position .count)) = _ :=
    literal_error (t := .die) (h.retry _) id hdie
  refine rule_error ?_ (Attempts.note_add.trans (hstand.add_eq .count))
  rw [bind_ok hcount, bind_error hdie]
  rfl

theorem batch_ok (h : c.Sees (.times :: .number n :: ts) rest) :
    batch c = .ok (n, c.moved [.times, .number n] c.attempts) := by
  have htimes : literal ['x'] c = _ := literal_ok (t := .times) h
  apply rule_ok
  rw [bind_ok htimes, digitRun_ok (h.past _), Cursor.moved_moved]
  rfl

theorem batch_without_number (h : c.Sees (.times :: ts) rest) (hts : ∀ n us, ts ≠ .number n :: us)
    (hstand : c.attempts.Stand c.position rs) :
    batch c = .error ⟨c.position + 1, [.number]⟩ := by
  have htimes : literal ['x'] c = _ := literal_ok (t := .times) h
  have hahead : c.attempts.Stand (c.position + 1) [] := hstand.ahead (Nat.lt_succ_self _)
  refine rule_error ?_ (Attempts.note_of_lt (b := ⟨_, [.number]⟩) (Nat.lt_succ_self _))
  rw [bind_ok htimes, digitRun_error (h.past _) hts]
  exact congrArg Except.error (hahead.add_eq .number)

theorem batch_elsewhere (h : c.Sees ts rest) (hts : ∀ us, ts ≠ .times :: us) :
    batch c = .error (c.attempts.add c.position .batch) :=
  rule_error (bind_error (literal_error (t := .times) h id hts)) Attempts.note_self

theorem signed_ok {s : Sign} (h : c.Sees (.sign s :: ts) rest) (r : Rule) :
    signed r s c = .ok (s, c.moved [.sign s] c.attempts) := by
  have hsign : literal [s.char] c = _ := literal_ok (t := .sign s) h
  apply rule_ok
  rw [bind_ok hsign]
  rfl

theorem signed_error {s : Sign} (h : c.Sees ts rest) (hts : ∀ us, ts ≠ .sign s :: us) (r : Rule) :
    signed r s c = .error (c.attempts.add c.position r) :=
  rule_error (bind_error (literal_error (t := .sign s) h id hts)) Attempts.note_self

theorem sign_ok {s : Sign} (h : c.Sees (.sign s :: ts) rest)
    (hstand : c.attempts.Stand c.position rs) :
    ∃ b, either (signed .add .plus) (signed .sub .minus) c = .ok (s, c.moved [.sign s] b) ∧
      b.Stand (c.position + 1) [] := by
  cases s with
  | plus => exact ⟨_, either_ok (signed_ok h .add), hstand.ahead (Nat.lt_succ_self _)⟩
  | minus =>
      have hadd := signed_error (s := .plus) h (by simp) .add
      rw [hstand.add_eq] at hadd
      refine ⟨_, (either_error hadd).trans (signed_ok (h.retry _) .sub), ?_⟩
      exact (c.stand_retry _).ahead (Nat.lt_succ_self _)

/-- Only a sign begins a further term. -/
theorem modTerm_elsewhere (h : c.Sees ts rest) (hts : ∀ s us, ts ≠ .sign s :: us) :
    modTerm c = .error (c.attempts.add c.position .modTerm) := by
  have hadd := signed_error h (hts .plus) .add
  have hsub := signed_error (h.retry (c.attempts.add c.position .add)) (hts .minus) .sub
  exact rule_error (bind_error ((either_error hadd).trans hsub)) Attempts.note_add_add

end

end Matcher

end DiceNotation
