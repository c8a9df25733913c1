import DiceNotation.Console.Session
import DiceNotation.Proofs.FirstFailure
import Mathlib.Tactic.IntervalCases

/-! # Sessions

All lines of a session share one generator, and that is all one line can tell
another: its outcome is that of the same roll alone, with the generator where
the lines before left it. A line that is blank, that does not parse, or whose
leading dice are refused never gets to the generator, so it could as well be
missing.
-/

namespace DiceNotation

section Idle

variable {σ : Type} {src : Source σ}

theorem runOn_evaluateAll_of_fault? {b : Batch} {e : EvaluationFault}
    (h : b.lead.fault? = some e) (bs : List Batch) (thresholds : Thresholds) (s : σ) :
    (evaluateAll (b :: bs) thresholds src).runOn s = (.error e, s) := by
  have hlead : ((Term.dice b.lead).evaluate src).runOn s = (.error e, s) :=
    DiceRoll.runOn_evaluate_of_fault? h s
  have hbatch : (b.evaluate thresholds src).runOn s = (.error e, s) := by
    rw [Batch.evaluate, Batch.terms, List.mapM_cons]
    exact Rolling.runOn_bind_error (Rolling.runOn_bind_error hlead _) _
  rw [evaluateAll, List.mapM_cons]
  exact Rolling.runOn_bind_error (Rolling.runOn_bind_error hbatch _) _

end Idle

/-- What a line asks to roll; nothing if it is blank. -/
def formula? (line : List Char) : Option String :=
  if (trim line).isEmpty then none else some (String.ofList (trim line))

/-- The batches that a line denotes; none if it is blank or no formula. -/
def batchesOf (line : List Char) : List Batch :=
  match formula? line with
  | none => []
  | some formula =>
    match parse formula with
    | .error _ => []
    | .ok bs => bs

/-- The line is blank, is no formula, or the leading dice of its batches are refused. -/
def Fruitless (line : List Char) : Prop :=
  formula? line = none ∨ (∃ formula e, formula? line = some formula ∧ parse formula = .error e) ∨
    ∃ formula b bs, formula? line = some formula ∧ parse formula = .ok (b :: bs) ∧ b.lead.Refused

/-- Without its backspaces the line is fruitless. -/
def Idle (line : List Char) : Prop := ∃ cleaned, Line.clean? line = some cleaned ∧ Fruitless cleaned

/-- What a line comes to: nothing, the text of its results, or an error. -/
abbrev Answer := Option (Except RollError String)

namespace Roller

/-- What a line comes to by itself: its formula is parsed, and the batches are evaluated with the
generator. -/
def answer (r : Roller) (line : List Char) : Answer :=
  (formula? line).map fun formula =>
    match parse formula with
    | .error e => .error (.parse e)
    | .ok bs =>
      match ((evaluateAll bs r.thresholds Generator.source).runOn r.generator).1 with
      | .error e => .error (.evaluation e)
      | .ok R => .ok (R.render r.format formula)

/-- The throws that evaluating a line makes, whether it fails or not. -/
def thrown (r : Roller) (line : List Char) : List Throw :=
  thrownAll (batchesOf line) r.thresholds Generator.source r.generator

/-- The roller as evaluating a line leaves it. -/
def after (r : Roller) (line : List Char) : Roller :=
  { r with
    generator :=
      ((evaluateAll (batchesOf line) r.thresholds Generator.source).runOn r.generator).2 }

/-- The answers to lines, up to one that breaks the session off. -/
def answers (r : Roller) : List (List Char) → List Answer
  | [] => []
  | line :: lines =>
    match Line.clean? line with
    | none => []
    | some cleaned => r.answer cleaned :: (r.after cleaned).answers lines

/-- The throws that are made for lines, up to one that breaks the session off. -/
def spent (r : Roller) : List (List Char) → List Throw
  | [] => []
  | line :: lines =>
    match Line.clean? line with
    | none => []
    | some cleaned => r.thrown cleaned ++ (r.after cleaned).spent lines

theorem after_blank (r : Roller) {line : List Char} (h : formula? line = none) :
    r.after line = r := by
  simp only [after, batchesOf, h]
  rfl

theorem roll_eq (r : Roller) {line : List Char} {formula : String}
    (h : formula? line = some formula) :
    some ((r.roll formula).1.map (Results.render r.format formula)) = r.answer line ∧
      (r.roll formula).2 = r.after line := by
  simp only [roll, answer, after, batchesOf, h, Option.map_some]
  cases hparse : parse formula with
  | error e =>
      simp only [roll_of_parse_error hparse]
      exact ⟨rfl, rfl⟩
  | ok bs =>
      simp only [roll_of_parse hparse]
      cases (evaluateAll bs r.thresholds Generator.source).runOn r.generator with
      | mk outcome next => cases outcome <;> exact ⟨rfl, trivial⟩

theorem serves_thrown (r : Roller) (line : List Char) :
    Generator.source.Serves (r.thrown line) r.generator (r.after line).generator :=
  (runOn_evaluateAll_recorded _ _ _ _).2

theorem after_idle (r : Roller) {line cleaned : List Char} (h : Idle line)
    (hcleaned : Line.clean? line = some cleaned) : r.after cleaned = r := by
  obtain ⟨_, hline, hfruitless⟩ := h
  obtain rfl := Option.some.inj (hline.symm.trans hcleaned)
  rcases hfruitless with hblank | ⟨formula, e, hformula, hparse⟩ |
    ⟨formula, b, bs, hformula, hparse, hrefused⟩
  · exact r.after_blank hblank
  · simp only [after, batchesOf, hformula, hparse]
    rfl
  · obtain ⟨e, he⟩ := Option.ne_none_iff_exists'.mp (DiceRoll.refused_iff.mp hrefused)
    simp only [after, batchesOf, hformula, hparse, runOn_evaluateAll_of_fault? he]

/-- A line that fails in its evaluation leaves the generator where the walk over its steps stopped,
and the throws until then are its throws. -/
theorem stops_of_answer (r : Roller) {line : List Char} {e : EvaluationFault}
    (h : r.answer line = some (.error (.evaluation e))) :
    Stops Generator.source (stepsOf (batchesOf line)) ⟨r.generator, []⟩ (r.thrown line) e
      (r.after line).generator := by
  refine runOn_evaluateAll_eq_error_iff.mp ⟨Prod.ext ?_ rfl, rfl⟩
  obtain ⟨formula, hformula, hanswer⟩ := Option.map_eq_some_iff.mp h
  simp only [batchesOf, hformula]
  cases hparse : parse formula with
  | error e' => simp [hparse] at hanswer
  | ok bs =>
      simp only [hparse] at hanswer
      split at hanswer
      · rename_i e' he'
        cases hanswer
        exact he'
      · cases hanswer

end Roller

/-- The list without the items at some positions. -/
def without {α : Type} (drop : Nat → Bool) : List α → List α
  | [] => []
  | a :: as =>
    let rest := without (fun i => drop (i + 1)) as
    if drop 0 then rest else a :: rest

theorem Roller.answers_without (r : Roller) (lines : List (List Char)) (drop : Nat → Bool)
    (h : ∀ i line, drop i = true → lines[i]? = some line → Idle line) :
    r.answers (without drop lines) = without drop (r.answers lines) := by
  induction lines generalizing r drop with
  | nil => rfl
  | cons line lines ih =>
      have hrest : ∀ i next, drop (i + 1) = true → lines[i]? = some next → Idle next :=
        fun i next hdrop hnext => h (i + 1) next hdrop hnext
      rw [without, answers]
      by_cases hdrop : drop 0 = true
      · have hidle : Idle line := h 0 line hdrop rfl
        obtain ⟨cleaned, hcleaned, -⟩ := id hidle
        simp only [hdrop, hcleaned, if_true, without, r.after_idle hidle hcleaned]
        exact ih r _ hrest
      · cases hcleaned : Line.clean? line with
        | none => simp [hdrop, answers, hcleaned, without]
        | some cleaned => simp [hdrop, answers, hcleaned, without, ih _ _ hrest]

/-- What a text looks like on the terminal. -/
def Terminal.shown (format : Format) (text : String) : String :=
  match format with
  | .ron => text ++ "\n"
  | .compact | .verbose => plain text

theorem Terminal.print_eq_shown (format : Format) (formula : String) (R : Results) :
    print format formula R = shown format (R.render format formula) := by
  cases format <;> rfl

theorem Roller.print_eq (r : Roller) (formula : String) :
    r.print formula = ((r.roll formula).1.map fun R =>
      ⟨Terminal.shown r.format (R.render r.format formula), []⟩, (r.roll formula).2) := by
  simp only [← Terminal.print_eq_shown]
  rfl

def Answer.printed (format : Format) : Answer → Printed
  | none => ⟨"", []⟩
  | some (.ok text) => ⟨Terminal.shown format text, []⟩
  | some (.error e) => ⟨"", [errorLine e]⟩

/-- All that a session prints, given its answers and the number of its first line. -/
def transcript (format : Format) : (number : Nat) → List Answer → Printed
  | number, [] => ⟨"realm: " ++ decimal number ++ "> ", []⟩
  | number, a :: as =>
    let printed := a.printed format
    let others := transcript format (number + 1) as
    ⟨"realm: " ++ decimal number ++ "> " ++ printed.output ++ others.output,
      printed.errors ++ others.errors⟩

namespace Session

variable (s : Session) (line : List Char) (lines : List (List Char))

theorem enterClean_eq : s.enterClean line =
    ((s.roller.answer line).printed s.roller.format,
      ⟨s.roller.after line, s.history.add (String.ofList line), s.number + 1⟩) := by
  by_cases hblank : (trim line).isEmpty
  · have hnone : formula? line = none := if_pos hblank
    rw [s.roller.after_blank hnone, Roller.answer, hnone, enterClean, if_pos hblank]
    rfl
  · have hformula : formula? line = some (String.ofList (trim line)) := if_neg hblank
    obtain ⟨hanswer, hafter⟩ := s.roller.roll_eq hformula
    rw [← hanswer, ← hafter, enterClean, if_neg hblank, Roller.print_eq]
    cases (s.roller.roll (String.ofList (trim line))).1 <;> rfl

theorem roller_enterClean : (s.enterClean line).2.roller = s.roller.after line := by
  rw [enterClean_eq]

theorem printed_enterAll :
    (s.enterAll lines).1 = transcript s.roller.format s.number (s.roller.answers lines) := by
  induction lines generalizing s with
  | nil => rfl
  | cons line lines ih =>
      rw [enterAll, enter?, Roller.answers]
      cases Line.clean? line with
      | none => rfl
      | some cleaned =>
          have hformat : (s.roller.after cleaned).format = s.roller.format := rfl
          simp only [Option.map_some, enterClean_eq, ih, hformat, transcript]
          rfl

variable {s line lines} {before after : List (List Char)} {last : Session}

theorem enterAll_cons : (s.enterAll (line :: lines)).2 = some last ↔
    ∃ cleaned, Line.clean? line = some cleaned ∧
      ((s.enterClean cleaned).2.enterAll lines).2 = some last := by
  rw [enterAll, enter?]
  cases Line.clean? line <;> simp

theorem exists_enterAll (s : Session) (lines : List (List Char))
    (h : ∀ line ∈ lines, (Line.clean? line).isSome = true) :
    ∃ last, (s.enterAll lines).2 = some last := by
  induction lines generalizing s with
  | nil => exact ⟨s, rfl⟩
  | cons line lines ih =>
      obtain ⟨hline, hlines⟩ := List.forall_mem_cons.mp h
      obtain ⟨cleaned, hcleaned⟩ := Option.isSome_iff_exists.mp hline
      obtain ⟨last, hlast⟩ := ih (s.enterClean cleaned).2 hlines
      exact ⟨last, enterAll_cons.mpr ⟨cleaned, hcleaned, hlast⟩⟩

theorem roller_eq_of_enterAll (h : (s.enterAll before).2 = some last) :
    last.roller = ⟨s.roller.format, s.roller.thresholds, last.roller.generator⟩ := by
  induction before generalizing s with
  | nil =>
      cases h
      rfl
  | cons line before ih =>
      obtain ⟨cleaned, -, hbefore⟩ := enterAll_cons.mp h
      have hlast := ih hbefore
      rwa [roller_enterClean] at hlast

theorem length_answers (h : (s.enterAll before).2 = some last) :
    (s.roller.answers before).length = before.length := by
  induction before generalizing s with
  | nil => rfl
  | cons line before ih =>
      obtain ⟨cleaned, hcleaned, hbefore⟩ := enterAll_cons.mp h
      simp [Roller.answers, hcleaned, ← roller_enterClean, ih hbefore]

theorem answers_append (h : (s.enterAll before).2 = some last) :
    s.roller.answers (before ++ after) =
      s.roller.answers before ++ last.roller.answers after := by
  induction before generalizing s with
  | nil =>
      cases h
      rfl
  | cons line before ih =>
      obtain ⟨cleaned, hcleaned, hbefore⟩ := enterAll_cons.mp h
      simp [Roller.answers, hcleaned, ← roller_enterClean, ih hbefore]

theorem serves_spent (h : (s.enterAll before).2 = some last) :
    Generator.source.Serves (s.roller.spent before) s.roller.generator last.roller.generator := by
  induction before generalizing s with
  | nil =>
      cases h
      rfl
  | cons line before ih =>
      obtain ⟨cleaned, hcleaned, hbefore⟩ := enterAll_cons.mp h
      have hlater := ih hbefore
      rw [roller_enterClean] at hlater
      simp only [Roller.spent, hcleaned]
      exact Source.serves_append.mpr ⟨_, s.roller.serves_thrown cleaned, hlater⟩

theorem enterAll_append (h : (s.enterAll before).2 = some last) :
    (s.enterAll (before ++ after)).2 = (last.enterAll after).2 := by
  induction before generalizing s with
  | nil =>
      cases h
      rfl
  | cons line before ih =>
      obtain ⟨cleaned, hcleaned, hbefore⟩ := enterAll_cons.mp h
      rw [← ih hbefore, List.cons_append, enterAll, enter?, hcleaned]
      rfl

theorem answers_getElem? (h : (s.enterAll before).2 = some last) :
    (s.roller.answers (before ++ line :: after))[before.length]? =
      (Line.clean? line).map last.roller.answer := by
  rw [answers_append h, ← length_answers h, List.getElem?_append_right (Nat.le_refl _),
    Nat.sub_self, Roller.answers]
  cases Line.clean? line <;> rfl

/-- All that a session prints are the answers to its lines. Idle lines may be left out: the other
answers stay as they are. Each answer is the one that its line gets alone, with the generator as the
throws for all lines before leave it; and a line that fails in its evaluation leaves the generator
behind the throws up to its failure. -/
theorem enterAll_linewise (s : Session) (lines : List (List Char)) :
    (s.enterAll lines).1 = transcript s.roller.format s.number (s.roller.answers lines) ∧
      (∀ drop : Nat → Bool, (∀ i line, drop i = true → lines[i]? = some line → Idle line) →
        s.roller.answers (without drop lines) = without drop (s.roller.answers lines)) ∧
      ∀ before line after last, lines = before ++ line :: after →
        (s.enterAll before).2 = some last →
          (s.roller.answers lines)[before.length]? = (Line.clean? line).map
            (Roller.answer ⟨s.roller.format, s.roller.thresholds, last.roller.generator⟩) ∧
          Generator.source.Serves (s.roller.spent before) s.roller.generator
            last.roller.generator ∧
          ∀ cleaned next e, Line.clean? line = some cleaned →
            (s.enterAll (before ++ [line])).2 = some next →
            last.roller.answer cleaned = some (.error (.evaluation e)) →
            Stops Generator.source (stepsOf (batchesOf cleaned)) ⟨last.roller.generator, []⟩
              (last.roller.thrown cleaned) e next.roller.generator := by
  refine ⟨s.printed_enterAll lines, s.roller.answers_without lines, ?_⟩
  intro before line after last hlines h
  subst hlines
  rw [← roller_eq_of_enterAll h]
  refine ⟨answers_getElem? h, serves_spent h, ?_⟩
  intro cleaned next e hcleaned hnext hanswer
  rw [enterAll_append h] at hnext
  obtain ⟨_, hline, hlast⟩ := enterAll_cons.mp hnext
  obtain rfl := Option.some.inj (hline.symm.trans hcleaned)
  obtain rfl : (last.enterClean _).2 = next := Option.some.inj hlast
  rw [roller_enterClean]
  exact last.roller.stops_of_answer hanswer

/-- Between two rolls stand one that fails at its second term, after two draws, and refused dice, a
blank line and a line that is no formula, which draw nothing. -/
theorem enterAll_linewise_between :
    let s := start ⟨.compact, .unbounded, Generator.ofSeed 7⟩ (.empty false)
    let failing := "2d6+9223372036854775808".toList
    let before := ["2d6\n".toList, failing, "0d6 + 1\n".toList, " \n".toList, "roll\n".toList]
    s.roller.answers ["2d6\n".toList, failing, "d20\n".toList] =
        without (fun i => decide (2 ≤ i ∧ i ≤ 4)) (s.roller.answers (before ++ ["d20\n".toList])) ∧
      (∃ last, (s.enterAll before).2 = some last ∧
        (s.roller.answers (before ++ ["d20\n".toList]))[5]? =
          some (Roller.answer ⟨.compact, .unbounded, last.roller.generator⟩ "d20".toList) ∧
        Generator.source.Serves [⟨6, 1⟩, ⟨6, 4⟩, ⟨6, 2⟩, ⟨6, 6⟩] (Generator.ofSeed 7)
          last.roller.generator) ∧
      ∃ last next, (s.enterAll ["2d6\n".toList]).2 = some last ∧
        (s.enterAll ["2d6\n".toList, failing]).2 = some next ∧
        Stops Generator.source (stepsOf (batchesOf failing)) ⟨last.roller.generator, []⟩
          [⟨6, 2⟩, ⟨6, 6⟩] .constantTooLarge next.roller.generator := by
  intro s failing before
  obtain ⟨-, hidle, hlines⟩ := enterAll_linewise s (before ++ ["d20\n".toList])
  refine ⟨hidle (fun i => decide (2 ≤ i ∧ i ≤ 4)) ?_, ?_, ?_⟩
  · intro i line hdrop hline
    obtain ⟨htwo, hfour⟩ := of_decide_eq_true hdrop
    interval_cases i <;> cases hline
    · have hparse : parse "0d6 + 1" =
          .ok [⟨⟨"0d6", false, 0, 6, none⟩, [.constant ⟨"+1", false, 1⟩]⟩] := by decide +kernel
      have hrefused : DiceRoll.Refused ⟨"0d6", false, 0, 6, none⟩ := .inr (.inr (.inl rfl))
      exact ⟨"0d6 + 1".toList, by decide, .inr (.inr ⟨_, _, _, rfl, hparse, hrefused⟩)⟩
    · exact ⟨" ".toList, by decide, .inl rfl⟩
    · have hparse : parse "roll" = .error ⟨.unexpectedInput [.diceTerm], "roll", 0⟩ := by
        decide +kernel
      exact ⟨"roll".toList, by decide, .inr (.inl ⟨_, _, rfl, hparse⟩)⟩
  · obtain ⟨last, hlast⟩ := exists_enterAll s before (by decide)
    have hclean : Line.clean? "d20\n".toList = some "d20".toList := by decide
    have hspent : s.roller.spent before = [⟨6, 1⟩, ⟨6, 4⟩, ⟨6, 2⟩, ⟨6, 6⟩] := by decide +kernel
    obtain ⟨halone, hserves, -⟩ := hlines before _ [] last rfl hlast
    rw [hclean] at halone
    rw [hspent] at hserves
    exact ⟨last, hlast, halone, hserves⟩
  · obtain ⟨last, hlast⟩ := exists_enterAll s ["2d6\n".toList] (by decide)
    obtain ⟨next, hnext⟩ := exists_enterAll s ["2d6\n".toList, failing] (by decide)
    obtain ⟨-, -, hfailing⟩ := hlines ["2d6\n".toList] failing _ last rfl hlast
    have hroller : last.roller = s.roller.after "2d6".toList := by
      obtain ⟨cleaned, hcleaned, hfirst⟩ := enterAll_cons.mp hlast
      have hclean : Line.clean? "2d6\n".toList = some "2d6".toList := by decide
      obtain rfl := Option.some.inj (hcleaned.symm.trans hclean)
      obtain rfl := Option.some.inj hfirst
      exact roller_enterClean s "2d6".toList
    have hanswer : last.roller.answer failing = some (.error (.evaluation .constantTooLarge)) := by
      rw [hroller]
      decide +kernel
    have hthrown : last.roller.thrown failing = [⟨6, 2⟩, ⟨6, 6⟩] := by
      rw [hroller]
      decide +kernel
    have hstops := hfailing failing next .constantTooLarge (by decide) hnext hanswer
    rw [hthrown] at hstops
    exact ⟨last, next, hlast, hnext, hstops⟩

end Session

end DiceNotation
