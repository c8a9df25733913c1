import DiceNotation.Proofs.Comparison
import DiceNotation.View

/-! # Critical marks

The marks of a result tell which of its draws are critical, be they dropped or the
outcome of an explosion. The line of a batch shows either kind once, however often
and wherever it was drawn.
-/

namespace DiceNotation

namespace TermResult

variable {r : TermResult}

theorem mem_critics_iff {c : Critic} :
    c ∈ r.critics ↔ (∃ o ∈ r.rolls.getD [], o.critic = c) ∧ c ≠ .plain := by
  simp [critics]

theorem mem_throws_iff {x : Throw} :
    x ∈ r.throws ↔ ∃ d, r.term = .dice d ∧ ∃ o ∈ r.rolls.getD [], x = ⟨d.faces, o.value⟩ := by
  unfold throws values
  split
  · rename_i d hterm
    simp [hterm, eq_comm]
  · rename_i hterm
    simp [hterm]

/-- A mark of a marked result stands for a throw that deserves it. -/
theorem Marked.mem_critics_iff (h : r.Marked) {c : Critic} (hc : c ≠ .plain) {P : Throw → Prop}
    (hP : ∀ (o : Outcome) faces, o.MarkedOn faces → (o.critic = c ↔ P ⟨faces, o.value⟩)) :
    c ∈ r.critics ↔ ∃ x ∈ r.throws, P x := by
  constructor
  · intro hmem
    obtain ⟨⟨o, ho, hcritic⟩, -⟩ := TermResult.mem_critics_iff.mp hmem
    obtain ⟨d, hterm, hmarked⟩ := h o ho
    exact ⟨⟨d.faces, o.value⟩, mem_throws_iff.mpr ⟨d, hterm, o, ho, rfl⟩,
      (hP o d.faces hmarked).mp hcritic⟩
  · rintro ⟨x, hx, hPx⟩
    obtain ⟨d, hterm, o, ho, rfl⟩ := mem_throws_iff.mp hx
    obtain ⟨d', hterm', hmarked⟩ := h o ho
    obtain rfl : d = d' := Term.dice.inj (hterm.symm.trans hterm')
    exact TermResult.mem_critics_iff.mpr ⟨⟨o, ho, (hP o d.faces hmarked).mpr hPx⟩, hc⟩

end TermResult

namespace BatchResult

theorem plain_not_mem_critics (r : BatchResult) : .plain ∉ r.critics := by
  intro h
  obtain ⟨c, -, hc⟩ := List.mem_flatMap.mp h
  exact (TermResult.mem_critics_iff.mp hc).2 rfl

theorem marks_eq (r : BatchResult) :
    r.marks = if r.signs = [] then "" else " " ++ String.join r.signs := by
  simp only [marks, List.isEmpty_iff]

/-- Each sign stands in its place if some draw has its mark. -/
theorem ofList_signs {cs : List Critic} (h : .plain ∉ cs) :
    Ascending.ofList (cs.map Critic.sign) =
      ([Critic.max, .min].filter (· ∈ cs)).map Critic.sign := by
  induction cs with
  | nil => rfl
  | cons c cs ih =>
      obtain ⟨hc, hcs⟩ := not_or.mp (mt List.mem_cons.mpr h)
      have hinsert : Ascending.ofList ((c :: cs).map Critic.sign) =
          Ascending.insert c.sign (Ascending.ofList (cs.map Critic.sign)) := rfl
      rw [hinsert, ih hcs]
      cases c with
      | plain => exact absurd rfl hc
      | max | min =>
          by_cases hmax : .max ∈ cs <;> by_cases hmin : .min ∈ cs <;>
            simp [hmax, hmin, Critic.sign] <;> decide

theorem signs_eq (r : BatchResult) :
    r.signs = ([Critic.max, .min].filter (· ∈ r.critics)).map Critic.sign :=
  ofList_signs r.plain_not_mem_critics

theorem signs_sublist (r : BatchResult) : r.signs.Sublist ["🤩", "🥶"] := by
  rw [signs_eq]
  exact List.filter_sublist.map Critic.sign

theorem signs_ascending (r : BatchResult) : r.signs.Pairwise (· < ·) := by
  apply List.Pairwise.sublist r.signs_sublist
  decide

theorem max_sign_mem_iff (r : BatchResult) : "🤩" ∈ r.signs ↔ .max ∈ r.critics := by
  by_cases hmax : .max ∈ r.critics <;> by_cases hmin : .min ∈ r.critics <;>
    simp [signs_eq, Critic.sign, hmax, hmin]

theorem min_sign_mem_iff (r : BatchResult) : "🥶" ∈ r.signs ↔ .min ∈ r.critics := by
  by_cases hmax : .max ∈ r.critics <;> by_cases hmin : .min ∈ r.critics <;>
    simp [signs_eq, Critic.sign, hmax, hmin]

theorem signs_eq_of_mem_iff {r r' : BatchResult} (hmax : .max ∈ r.critics ↔ .max ∈ r'.critics)
    (hmin : .min ∈ r.critics ↔ .min ∈ r'.critics) : r.signs = r'.signs := by
  simp only [signs_eq, List.filter_cons, List.filter_nil, decide_eq_decide.mpr hmax,
    decide_eq_decide.mpr hmin]

theorem Marked.mem_critics_iff {r : BatchResult} (h : r.Marked) {c : Critic} (hc : c ≠ .plain)
    {P : Throw → Prop}
    (hP : ∀ (o : Outcome) faces, o.MarkedOn faces → (o.critic = c ↔ P ⟨faces, o.value⟩)) :
    c ∈ r.critics ↔ ∃ x ∈ r.throws, P x := by
  simp only [critics, throws, List.mem_flatMap]
  constructor
  · rintro ⟨t, ht, hmem⟩
    obtain ⟨x, hx, hPx⟩ := ((h t ht).mem_critics_iff hc hP).mp hmem
    exact ⟨x, ⟨t, ht, hx⟩, hPx⟩
  · rintro ⟨x, ⟨t, ht, hx⟩, hPx⟩
    exact ⟨t, ht, ((h t ht).mem_critics_iff hc hP).mpr ⟨x, hx, hPx⟩⟩

end BatchResult

theorem Term.Yields.onDie_of_mem_throws {t : Term} {r : TermResult} (h : t.Yields r) :
    ∀ x ∈ r.throws, OnDie x.faces x.value := by
  intro x hx
  obtain ⟨d, hterm, o, ho, rfl⟩ := TermResult.mem_throws_iff.mp hx
  obtain rfl : t = .dice d := h.term_eq.symm.trans hterm
  obtain ⟨-, vs, hvs, rfl⟩ := h
  obtain ⟨v, hv, rfl⟩ := List.mem_map.mp ho
  exact hvs.1 v hv

namespace Batch.Yields

variable {b : Batch} {t : Thresholds} {r : BatchResult}

theorem onDie_of_mem_throws (h : b.Yields t r) : ∀ x ∈ r.throws, OnDie x.faces x.value := by
  intro x hx
  obtain ⟨c, hc, hthrow⟩ := List.mem_flatMap.mp hx
  have hall : ∀ c ∈ r.results, ∀ x ∈ c.throws, OnDie x.faces x.value :=
    forall_mem_of_forall₂ (fun _ _ hc => Term.Yields.onDie_of_mem_throws hc) h.1
  exact hall c hc x hthrow

theorem max_mem_critics_iff (h : b.Yields t r) :
    .max ∈ r.critics ↔ ∃ x ∈ r.throws, x.value = x.faces :=
  h.marked.mem_critics_iff (by decide) fun _ _ ho => ho.max_iff

theorem min_mem_critics_iff (h : b.Yields t r) :
    .min ∈ r.critics ↔ ∃ x ∈ r.throws, x.value = 1 ∧ 1 < x.faces := by
  have hmarks : .min ∈ r.critics ↔ ∃ x ∈ r.throws, x.value = 1 ∧ x.faces ≠ 1 :=
    h.marked.mem_critics_iff (by decide) fun _ _ ho => ho.min_iff
  rw [hmarks]
  constructor
  · rintro ⟨x, hx, hone, hfaces⟩
    have hle : 1 ≤ x.faces := hone ▸ (h.onDie_of_mem_throws x hx).2
    exact ⟨x, hx, hone, UInt64.lt_of_le_of_ne hle hfaces.symm⟩
  · rintro ⟨x, hx, hone, hfaces⟩
    exact ⟨x, hx, hone, (UInt64.ne_of_lt hfaces).symm⟩

end Batch.Yields

/-- The line of a batch ends in its marks: the sign of the highest face if some throw of the
evaluation shows it, dropped and exploded dice included, and the sign of the lowest face if some
throw shows a one on a die with more faces. Either stands there once, in this order and after one
space, so only the two facts matter and not which throws they are due to. -/
theorem compact_marks {σ : Type} (src : Source σ) (s s' : σ) (b : Batch) (t : Thresholds)
    (r : BatchResult) (h : (b.evaluate t src).runOn s = (.ok r, s')) (formula : String) :
    (b.evaluate t src.recorded).runOn (s, []) = (.ok r, (s', r.throws)) ∧
      r.compact formula =
        "`" ++ formula ++ "` | " ++ " * ".intercalate r.traces ++ " | " ++ r.text ++ r.marks ∧
      (∃ signs : List String,
        r.marks = (if signs = [] then "" else " " ++ String.join signs) ∧
          signs.Sublist ["🤩", "🥶"] ∧ signs.Pairwise (· < ·) ∧
          ("🤩" ∈ signs ↔ ∃ x ∈ r.throws, x.value = x.faces) ∧
          ("🥶" ∈ signs ↔ ∃ x ∈ r.throws, x.value = 1 ∧ 1 < x.faces)) ∧
      ∀ {τ : Type} (src' : Source τ) (u u' : τ) (b' : Batch) (t' : Thresholds) (r' : BatchResult),
        (b'.evaluate t' src').runOn u = (.ok r', u') →
        ((∃ x ∈ r.throws, x.value = x.faces) ↔ ∃ x ∈ r'.throws, x.value = x.faces) →
        ((∃ x ∈ r.throws, x.value = 1 ∧ 1 < x.faces) ↔
          ∃ x ∈ r'.throws, x.value = 1 ∧ 1 < x.faces) →
        r.marks = r'.marks := by
  obtain ⟨hyields, hserves⟩ := Batch.runOn_evaluate_eq_ok_iff.mp h
  refine ⟨?recorded, rfl, ?signs, ?marks⟩
  case recorded =>
    exact Batch.runOn_evaluate_eq_ok_iff.mpr
      ⟨hyields, Source.serves_recorded.mpr ⟨hserves, rfl⟩⟩
  case signs =>
    refine ⟨r.signs, r.marks_eq, r.signs_sublist, r.signs_ascending, ?_, ?_⟩
    · rw [r.max_sign_mem_iff, hyields.max_mem_critics_iff]
    · rw [r.min_sign_mem_iff, hyields.min_mem_critics_iff]
  case marks =>
    intro τ src' u u' b' t' r' h' hmax hmin
    obtain ⟨hyields', -⟩ := Batch.runOn_evaluate_eq_ok_iff.mp h'
    rw [← hyields.max_mem_critics_iff, ← hyields'.max_mem_critics_iff] at hmax
    rw [← hyields.min_mem_critics_iff, ← hyields'.min_mem_critics_iff] at hmin
    rw [r.marks_eq, r'.marks_eq, BatchResult.signs_eq_of_mem_iff hmax hmin]

/-- The line of an exploded six and a later one ends like that of a one and a four on one die. -/
theorem compact_marks_exploded :
    ∃ r r' : BatchResult,
      (Batch.evaluate ⟨⟨"d6!", false, 1, 6, some (.explode 0)⟩, [.dice ⟨"-3d4", true, 3, 4, none⟩]⟩
        .unbounded Script.source).runOn ⟨[6, 2, 1, 4, 1], .highest⟩ = (.ok r, ⟨[], .highest⟩) ∧
      (Batch.evaluate ⟨⟨"2d4", false, 2, 4, none⟩, []⟩ .unbounded Script.source).runOn
        ⟨[1, 4], .highest⟩ = (.ok r', ⟨[], .highest⟩) ∧
      r.throws = [⟨6, 6⟩, ⟨6, 2⟩, ⟨4, 1⟩, ⟨4, 4⟩, ⟨4, 1⟩] ∧ r'.throws = [⟨4, 1⟩, ⟨4, 4⟩] ∧
      r.marks = r'.marks ∧ r'.marks = " 🤩🥶" := by
  obtain ⟨r, r', h, h', hthrows, hthrows', hmarks⟩ : ∃ r r' : BatchResult,
      (Batch.evaluate ⟨⟨"d6!", false, 1, 6, some (.explode 0)⟩, [.dice ⟨"-3d4", true, 3, 4, none⟩]⟩
        .unbounded Script.source).runOn ⟨[6, 2, 1, 4, 1], .highest⟩ = (.ok r, ⟨[], .highest⟩) ∧
      (Batch.evaluate ⟨⟨"2d4", false, 2, 4, none⟩, []⟩ .unbounded Script.source).runOn
        ⟨[1, 4], .highest⟩ = (.ok r', ⟨[], .highest⟩) ∧
      r.throws = [⟨6, 6⟩, ⟨6, 2⟩, ⟨4, 1⟩, ⟨4, 4⟩, ⟨4, 1⟩] ∧ r'.throws = [⟨4, 1⟩, ⟨4, 4⟩] ∧
      r'.marks = " 🤩🥶" := ⟨_, _, rfl, rfl, rfl, rfl, by decide⟩
  refine ⟨r, r', h, h', hthrows, hthrows', ?_, hmarks⟩
  refine (compact_marks _ _ _ _ _ r h "").2.2.2 _ _ _ _ _ r' h' ?_ ?_
  · simp [hthrows, hthrows']
  · simp [hthrows, hthrows']

end DiceNotation
