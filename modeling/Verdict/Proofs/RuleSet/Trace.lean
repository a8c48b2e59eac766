-- The trace of an evaluation. It has a line for each condition in the order of
-- the ids, and then the formula and the verdict. The formula is the one that
-- decided, unless the rule set has lost all of its conditions: then a repair
-- that was made before is shown, though the formula is empty by now.
import Verdict.Proofs.Equation.Runs
import Verdict.Proofs.RuleSet.History

namespace Verdict

namespace Formula

/-! ## Texts -/

theorem chars_eq_nil {es : List Element} : chars es = [] ↔ es = [] := by
  rcases es with _ | ⟨e, es⟩
  · simp
  · have he : e.chars ≠ [] := by
      unfold Element.chars
      split
      · simp
      · split <;> simp
    simp [chars, he]

theorem render_eq_render_nil {es : List Element} : render es = render [] ↔ es = [] := by
  unfold render
  rw [String.ofList_inj, chars_nil, chars_eq_nil]

end Formula

theorem Equation.Fresh.keeps {q : Equation} (h : q.Fresh) :
    q.Keeps q.elements (q.repaired.map Prod.fst) := by
  refine ⟨rfl, ?_⟩
  rcases hr : q.repaired with _ | ⟨maxId, es⟩
  · rfl
  · rw [h maxId es hr]
    rfl

namespace RuleSet

variable {s : RuleSet}

/-! ## Lines -/

/-- The line that is due for a condition, given the outcomes that the formula is applied to. -/
def dueLine (r : Outcomes) (e : Nat × Condition) : String :=
  let word :=
    if e.2.isEnabled then if r.holds e.1 then "MATCHED" else "NOT_MATCHED" else "DISABLED"
  s!"{idAlias e.1}: {e.2.label} => {word}"

/-- The last line of a trace that shows a formula and a verdict. -/
def lastLine (es : List Element) (matched : Bool) : String :=
  let word := if matched then "MATCHED" else "NOT_MATCHED"
  s!"equation: {Formula.render es} => {word}"

theorem render_eq_of_lastLine {es fs : List Element} {matched : Bool}
    (h : lastLine es matched = lastLine fs matched) : Formula.render es = Formula.render fs := by
  unfold lastLine at h
  have htext : toString (Formula.render es) = toString (Formula.render fs) := by simpa using h
  exact htext

/-- The line of a condition tells the outcome that the formula is applied to. -/
theorem Sound.conditionLine_eq (h : s.Sound) (x : Context) {e : Nat × Condition}
    (he : e ∈ s.conditions) : conditionLine x e.1 e.2 = dueLine (s.outcomes x) e := by
  have hholds : (s.outcomes x).holds e.1 = e.2.holds x := by
    apply Outcomes.holds_of_some
    unfold outcomes
    rw [Keyed.lookup_eq_find?, Keyed.find?_map, h.sorted.find?_of_mem he]
    rfl
  unfold conditionLine dueLine outcomeWord matchWord
  rw [hholds]

/-! ## The formula that is shown -/

theorem maxId?_eq_none : s.maxId? = none ↔ s.isEmpty = true := by
  unfold maxId? isEmpty
  simp

theorem maxId?_tested (s : RuleSet) (x : Context) : (s.tested x).maxId? = s.maxId? := by
  unfold maxId? tested
  rw [List.getLast?_map, Option.map_map]
  rfl

/-- A test of the conditions leaves the equation alone, so only the repair counts. -/
theorem equation_evaluated (s : RuleSet) (record : Record) (now : Moment) :
    (s.evaluated record now).equation = s.repaired.equation := by
  unfold evaluated repaired
  rw [maxId?_tested]
  split <;> rfl

theorem maxId?_evaluated (s : RuleSet) (record : Record) (now : Moment) :
    (s.evaluated record now).maxId? = s.maxId? := by
  unfold maxId?
  unfold evaluated
  rw [conditions_repaired]
  exact maxId?_tested s _

/-- The trace has a line for each condition, and shows the repair that is kept, if any. -/
theorem Sound.trace_evaluate (h : s.Sound) (ht : s.options.trace = true) (record : Record)
    (now : Moment) :
    (s.evaluate record now).trace =
      s.conditions.map (dueLine (s.outcomes (s.context record now))) ++
        [lastLine (s.repaired.equation.normalized?.getD []) (s.evaluate record now).matched] := by
  have htrace : (s.evaluate record now).trace = if s.options.trace then
      s.conditions.map (fun e => conditionLine (s.context record now) e.1 e.2) ++
        [equationLine (s.evaluated record now).equation (s.evaluate record now).matched]
      else [] := rfl
  rw [htrace, if_pos ht, equation_evaluated,
    List.map_congr_left fun e he => h.conditionLine_eq (s.context record now) he]
  rfl

/-- With conditions, the repair that is kept after an evaluation is the formula that decided. -/
theorem Sound.normalized?_repaired (h : s.Sound) {maxId : Nat} (hm : s.maxId? = some maxId) :
    s.repaired.equation.normalized? =
      some (Formula.normalize maxId s.equation.elements) := by
  unfold RuleSet.repaired
  rw [hm]
  exact (h.fresh.keeps.normalize maxId).normalized?

/-- A repair that is kept is never empty. -/
theorem Sound.ne_nil_of_normalized? (h : s.Sound) {es : List Element}
    (he : s.equation.normalized? = some es) : es ≠ [] := by
  obtain ⟨⟨maxId, fs⟩, hr, rfl⟩ := Option.map_eq_some_iff.mp he
  rw [h.fresh maxId fs hr]
  exact (Formula.isComplete_normalize maxId s.equation.elements).1.ne_nil

/-- A repair that is kept never looks like an empty formula. -/
theorem Sound.lastLine_ne (h : s.Sound) {es : List Element}
    (he : s.equation.normalized? = some es) (matched : Bool) :
    lastLine es matched ≠ lastLine [] matched := by
  intro hsame
  have hrender : Formula.render es = Formula.render [] := render_eq_of_lastLine hsame
  exact h.ne_nil_of_normalized? he (Formula.render_eq_render_nil.mp hrender)

/-! ## The trace -/

theorem Sound.normalized_evaluated (h : s.Sound) (record : Record) (now : Moment) {maxId : Nat}
    (hm : s.maxId? = some maxId) :
    (s.evaluated record now).normalized = Formula.normalize maxId s.equation.elements := by
  have hs : (s.evaluated record now).Sound := (h.tested _).repaired
  rw [hs.normalized_eq ((maxId?_evaluated s record now).trans hm),
    (sameContent_evaluated s record now).elements]

/-- With conditions, the trace shows the formula of the rule set, and that formula decides. -/
theorem Sound.trace_of_maxId (h : s.Sound) (ht : s.options.trace = true) (record : Record)
    (now : Moment) {maxId : Nat} (hm : s.maxId? = some maxId) :
    let r := s.outcomes (s.context record now)
    let e := s.evaluate record now
    let due := (s.evaluated record now).normalized
    e.trace = s.conditions.map (dueLine r) ++ [lastLine due e.matched] ∧
      e.matched = Formula.evaluate r due := by
  intro r e due
  have hdue : due = Formula.normalize maxId s.equation.elements :=
    h.normalized_evaluated record now hm
  constructor
  · have htrace := h.trace_evaluate ht record now
    rw [h.normalized?_repaired hm, Option.getD_some, ← hdue] at htrace
    exact htrace
  · rw [hdue]
    exact h.apply_eq hm r

/-- Without conditions there is no formula, and nothing matches. The trace shows the repair that
is kept, if any. -/
theorem Sound.trace_of_isEmpty (h : s.Sound) (ht : s.options.trace = true) (record : Record)
    (now : Moment) (hempty : s.isEmpty = true) :
    (s.evaluated record now).normalized = [] ∧ (s.evaluate record now).matched = false ∧
      (s.evaluate record now).trace = [lastLine (s.equation.normalized?.getD []) false] := by
  have hm : s.maxId? = none := maxId?_eq_none.mpr hempty
  -- Without a largest id nothing is repaired anew, and what was kept before stays.
  have hrepaired : s.repaired = s := by
    unfold RuleSet.repaired
    rw [hm]
  have hmatched : (s.evaluate record now).matched = false := by
    have happly : (s.evaluate record now).matched =
        s.apply (s.outcomes (s.context record now)) := rfl
    rw [happly]
    unfold apply
    rw [hm]
  refine ⟨?_, hmatched, ?_⟩
  · unfold normalized
    rw [maxId?_evaluated, hm]
  · have hnil : s.conditions = [] := List.isEmpty_iff.mp hempty
    rw [h.trace_evaluate ht record now, hrepaired, hmatched, hnil]
    rfl

/-- The trace of an evaluation has a line for each condition, in the order of the ids, that tells
its outcome, and then a line with the verdict and the formula. The formula is the one of the rule
set, which decided, if there are conditions or if no repair is kept. Otherwise it is the repair that
is kept from the time when there were conditions, and so not the formula of the rule set. -/
theorem the_trace_shows_the_formula_unless_a_repair_is_left (h : s.Reachable)
    (ht : s.options.trace = true) (record : Record) (now : Moment) :
    let r := s.outcomes (s.context record now)
    let e := s.evaluate record now
    let due := (s.evaluated record now).normalized
    s.conditions.Pairwise (fun a b => a.1 < b.1) ∧
      (e.trace = s.conditions.map (dueLine r) ++ [lastLine due e.matched] ↔
        s.isEmpty = false ∨ s.equation.normalized? = none) ∧
      (s.isEmpty = false → e.matched = Formula.evaluate r due) ∧
      ∀ es, s.isEmpty = true → s.equation.normalized? = some es →
        due = [] ∧ es ≠ [] ∧ e.trace = [lastLine es false] := by
  intro r e due
  refine ⟨h.sound.sorted, ?_⟩
  rcases hc : s.isEmpty with _ | _
  · obtain ⟨maxId, hm⟩ := exists_maxId hc
    obtain ⟨htrace, hdecides⟩ := h.sound.trace_of_maxId ht record now hm
    refine ⟨iff_of_true htrace (Or.inl rfl), fun _ => hdecides, ?_⟩
    intro es hempty
    cases hempty
  · obtain ⟨hdue, hmatched, htrace⟩ := h.sound.trace_of_isEmpty ht record now hc
    have hclaim : s.conditions.map (dueLine r) ++ [lastLine due e.matched] =
        [lastLine [] false] := by
      rw [List.isEmpty_iff.mp hc, show due = [] from hdue, show e.matched = false from hmatched]
      rfl
    rw [hclaim, show e.trace = _ from htrace]
    refine ⟨?_, fun hne => (Bool.false_ne_true hne.symm).elim, ?_⟩
    · rcases hq : s.equation.normalized? with _ | es
      · exact iff_of_true rfl (Or.inr rfl)
      · refine iff_of_false ?_ (by simp)
        intro hsame
        exact h.sound.lastLine_ne hq false (List.singleton_inj.mp hsame)
    · intro es _ hq
      rw [hq]
      exact ⟨hdue, h.sound.ne_nil_of_normalized? hq, rfl⟩

/-- Two conditions, one of them disabled: both have a line, and the formula is the repaired one. -/
theorem a_trace_of_two_conditions :
    let copy := Condition.ofOperands 0 (.field "name") .copy (.literal .string "")
    let now := Moment.midnight ⟨2024, 2, 29, by decide⟩
    let record := Record.fields [("name", "Ann")]
    let s := ((((new "two").withTrace.setElements [.ref 1]).add 0 copy).add 3 (.disabled 3 .eq))
    s.Reachable ∧ s.options.trace = true ∧ s.isEmpty = false ∧
      (s.evaluate record now).trace = ["A: name Copy  => MATCHED", "D: D => DISABLED",
        "equation: b+a+c+d => MATCHED"] := by
  intro copy now record s
  have hs : s.Reachable :=
    ((((Reachable.new "two").withTrace.setElements _).add 0 (.ofOperands ..)).add 3 (.disabled ..))
  have hne : s.isEmpty = false := rfl
  obtain ⟨-, htrace, hdecides, -⟩ :=
    the_trace_shows_the_formula_unless_a_repair_is_left hs rfl record now
  let t : Formula.Sentence := (Formula.Operand.plain (.ref 1)).orRefs [0, 2, 3]
  have hdue : (s.evaluated record now).normalized = t.elements := by decide +kernel
  have hmatched : (s.evaluate record now).matched = true := by
    rw [hdecides hne, hdue, Formula.evaluate_elements]
    rfl
  refine ⟨hs, rfl, hne, (htrace.mpr (Or.inl hne)).trans ?_⟩
  rw [hmatched]
  decide +kernel

/-- A rule set that was evaluated and then lost its only condition shows the formula that it had
before. -/
theorem a_lost_condition_stays_in_the_trace :
    let now := Moment.midnight ⟨2024, 2, 29, by decide⟩
    let record := Record.fields []
    let s := (((new "gone").withTrace.add 0 (.disabled 0 .eq)).evaluated record now).remove 0
    s.Reachable ∧ s.options.trace = true ∧ s.conditions = [] ∧
      (s.evaluated record now).normalized = [] ∧
      (s.evaluate record now).trace = ["equation: a => NOT_MATCHED"] ∧
      (s.evaluate record now).trace ≠
        s.conditions.map (dueLine (s.outcomes (s.context record now))) ++
          [lastLine (s.evaluated record now).normalized (s.evaluate record now).matched] := by
  intro now record s
  have hs : s.Reachable :=
    (((Reachable.new "gone").withTrace.add 0 (.disabled ..)).evaluated record now).remove 0
  refine ⟨hs, rfl, rfl, rfl, by decide +kernel, by decide +kernel⟩

end RuleSet

end Verdict
