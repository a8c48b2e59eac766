-- The equations, conditions and rule sets that can come about, and what holds
-- of all of them: the repair that an equation keeps is one of its elements, a
-- condition goes by its label unless `copy` renames it, and the conditions of a
-- rule set stand in the order of their ids.
import Mathlib.Data.Nat.Basic
import Mathlib.Order.RelClasses
import Verdict.Proofs.Keyed
import Verdict.RuleSet.Evaluation

namespace Verdict

/-! ## Equations -/

namespace Equation

/-- The equations that can come about. A formula that is read, from a text or from tokens, is
made from its elements. -/
inductive Reachable : Equation → Prop
  | ofElements (es : List Element) : Reachable (ofElements es)
  | setElements {q : Equation} (es : List Element) : Reachable q → Reachable (q.setElements es)
  | normalize {q : Equation} (maxId : Nat) : Reachable q → Reachable (q.normalize maxId)

/-- The repair that is kept is one of the elements that are there. -/
def Fresh (q : Equation) : Prop :=
  ∀ maxId es, q.repaired = some (maxId, es) → es = Formula.normalize maxId q.elements

theorem fresh_ofElements (es : List Element) : (ofElements es).Fresh := by
  intro maxId repaired h
  cases h

theorem Fresh.normalize {q : Equation} (h : q.Fresh) (maxId : Nat) : (q.normalize maxId).Fresh := by
  unfold Equation.normalize
  split
  · exact h
  · intro m es he
    cases he
    rfl

theorem Reachable.fresh {q : Equation} (h : q.Reachable) : q.Fresh := by
  induction h with
  | ofElements es => exact fresh_ofElements es
  | setElements es _ _ => exact fresh_ofElements es
  | normalize maxId _ ih => exact ih.normalize maxId

/-- What is kept never shows: the repaired formula is that of the elements. -/
theorem Fresh.normalized_eq {q : Equation} (h : q.Fresh) (maxId : Nat) :
    q.normalized maxId = Formula.normalize maxId q.elements := by
  unfold normalized Equation.normalize
  split
  · rename_i hr
    unfold isRepairedFor at hr
    rcases hq : q.repaired with _ | ⟨m, es⟩
    · simp [hq] at hr
    · have hm : m = maxId := by simpa [hq] using hr
      rw [← hm, ← h m es hq]
      simp [normalized?, hq]
  · rfl

end Equation

/-! ## Conditions -/

namespace Condition

/-- The conditions that can come about. A definition gives one with its operands, or a disabled
one. -/
inductive Reachable : Condition → Prop
  | ofOperands (id : Nat) (left : ValueNode) (comparator : Comparator) (right : ValueNode) :
      Reachable (ofOperands id left comparator right)
  | disabled (id : Nat) (comparator : Comparator) : Reachable (disabled id comparator)
  | withId {c : Condition} (id : Nat) : Reachable c → Reachable (c.withId id)
  | disable {c : Condition} : Reachable c → Reachable c.disable
  | tested {c : Condition} (x : Context) : Reachable c → Reachable (c.tested x)

/-- The condition goes by its label, unless it is disabled or `copy` renames it. -/
def GoesByLabel (c : Condition) : Prop :=
  c.isEnabled = true → c.comparator ≠ .copy → c.name = c.label

theorem GoesByLabel.withId {c : Condition} (h : c.GoesByLabel) (id : Nat) :
    (c.withId id).GoesByLabel := by
  unfold Condition.withId
  split
  · exact h
  · exact fun _ _ => rfl

theorem GoesByLabel.tested {c : Condition} (h : c.GoesByLabel) (x : Context) :
    (c.tested x).GoesByLabel := by
  unfold Condition.tested
  split
  · exact h
  · split
    · rename_i hc
      intro _ hne
      exact absurd hc hne
    · exact h

theorem Reachable.goesByLabel {c : Condition} (h : c.Reachable) : c.GoesByLabel := by
  induction h with
  | ofOperands id left comparator right => exact fun _ _ => rfl
  | disabled id comparator => exact fun _ _ => rfl
  | withId id _ ih => exact ih.withId id
  | disable _ _ =>
    intro he
    exact absurd he Bool.false_ne_true
  | tested x _ ih => exact ih.tested x

theorem reachable_of_ofDefinition {d : ConditionDefinition} {c : Condition}
    (h : ofDefinition d = .ok c) : c.Reachable := by
  simp only [ofDefinition, bind, Except.bind] at h
  repeat' split at h
  all_goals cases h
  exact .ofOperands ..

end Condition

theorem ConditionDefinition.reachable_condition (d : ConditionDefinition) (id : Nat) :
    (d.condition id).Reachable := by
  unfold condition
  split
  · rename_i h
    exact Condition.reachable_of_ofDefinition h
  · exact .disabled ..

/-! ## Rule sets -/

namespace RuleSet

/-- The rule sets that can come about. A condition or an equation that is put in can be any one
that can come about, also one that was in a rule set before. -/
inductive Reachable : RuleSet → Prop
  | new (id : String) : Reachable (new id)
  | ofDefinition (r : Reporter) (newId : String) (d : RuleSetDefinition) :
      Reachable (ofDefinition r newId d)
  | withReporter {s : RuleSet} (r : Reporter) : Reachable s → Reachable (s.withReporter r)
  | withOptions {s : RuleSet} (options : Options) : Reachable s → Reachable (s.withOptions options)
  | withTrace {s : RuleSet} : Reachable s → Reachable s.withTrace
  | add {s : RuleSet} {c : Condition} (id : Nat) :
      Reachable s → c.Reachable → Reachable (s.add id c)
  | remove {s : RuleSet} (id : Nat) : Reachable s → Reachable (s.remove id)
  | setFormula {s : RuleSet} (formula : String) : Reachable s → Reachable (s.setFormula formula)
  | setElements {s : RuleSet} (es : List Element) : Reachable s → Reachable (s.setElements es)
  | setEquation {s : RuleSet} {q : Equation} :
      Reachable s → q.Reachable → Reachable (s.setEquation q)
  /-- The formula is repaired, to be looked at or to be applied to outcomes. -/
  | repaired {s : RuleSet} : Reachable s → Reachable s.repaired
  | evaluated {s : RuleSet} (record : Record) (now : Moment) :
      Reachable s → Reachable (s.evaluated record now)

/-- What every operation keeps. -/
structure Sound (s : RuleSet) : Prop where
  sorted : Keyed.Sorted s.conditions
  goesByLabel : ∀ e ∈ s.conditions, e.2.GoesByLabel
  fresh : s.equation.Fresh

theorem sound_ofDefinition (r : Reporter) (newId : String) (d : RuleSetDefinition) :
    Sound (ofDefinition r newId d) := by
  refine ⟨Keyed.sorted_ofList _, ?_, Equation.fresh_ofElements _⟩
  intro e he
  obtain ⟨c, -, hc⟩ := List.mem_filterMap.mp (Keyed.mem_of_mem_ofList he)
  unfold ConditionDefinition.entry? at hc
  split at hc
  · cases hc
    exact (c.reachable_condition _).goesByLabel
  · cases hc

theorem Sound.add {s : RuleSet} (h : s.Sound) (id : Nat) {c : Condition} (hc : c.GoesByLabel) :
    (s.add id c).Sound := by
  unfold RuleSet.add
  split
  · refine ⟨h.sorted.insert id (c.withId id), ?_, h.fresh⟩
    intro e he
    rcases Keyed.mem_of_mem_insert he with rfl | he
    · exact hc.withId id
    · exact h.goesByLabel e he
  · exact h

theorem Sound.remove {s : RuleSet} (h : s.Sound) (id : Nat) : (s.remove id).Sound :=
  ⟨h.sorted.erase id, fun e he => h.goesByLabel e (Keyed.mem_of_mem_erase he), h.fresh⟩

theorem Sound.setEquation {s : RuleSet} (h : s.Sound) {q : Equation} (hq : q.Fresh) :
    (s.setEquation q).Sound := ⟨h.sorted, h.goesByLabel, hq⟩

theorem Sound.repaired {s : RuleSet} (h : s.Sound) : s.repaired.Sound := by
  unfold RuleSet.repaired
  split
  · exact ⟨h.sorted, h.goesByLabel, h.fresh.normalize _⟩
  · exact h

theorem Sound.tested {s : RuleSet} (h : s.Sound) (x : Context) : (s.tested x).Sound := by
  refine ⟨h.sorted.map _, ?_, h.fresh⟩
  intro e he
  obtain ⟨f, hf, rfl⟩ := List.mem_map.mp he
  exact (h.goesByLabel f hf).tested x

theorem Reachable.sound {s : RuleSet} (h : s.Reachable) : s.Sound := by
  induction h with
  | new id => exact ⟨Keyed.sorted_nil, by simp [RuleSet.new], Equation.fresh_ofElements []⟩
  | ofDefinition r newId d => exact sound_ofDefinition r newId d
  | withReporter r _ ih => exact ⟨ih.sorted, ih.goesByLabel, ih.fresh⟩
  | withOptions options _ ih => exact ⟨ih.sorted, ih.goesByLabel, ih.fresh⟩
  | withTrace _ ih => exact ⟨ih.sorted, ih.goesByLabel, ih.fresh⟩
  | add id _ hc ih => exact ih.add id hc.goesByLabel
  | remove id _ ih => exact ih.remove id
  | setFormula formula _ ih => exact ih.setEquation (Equation.fresh_ofElements _)
  | setElements es _ ih => exact ih.setEquation (Equation.fresh_ofElements es)
  | setEquation _ hq ih => exact ih.setEquation hq.fresh
  | repaired _ ih => exact ih.repaired
  | evaluated record now _ ih => exact (ih.tested _).repaired

end RuleSet

end Verdict
