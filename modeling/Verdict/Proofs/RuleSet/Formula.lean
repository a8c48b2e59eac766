-- What a rule set makes of the outcomes of its conditions. The formula decides
-- that was repaired for the conditions that are there, and the conditions that
-- it leaves out count beside its last operand only.
import Verdict.Proofs.Formula.Repair
import Verdict.Proofs.RuleSet.Reachable
import Verdict.Proofs.Tree.Meaning

namespace Verdict

/-! ## Joined references -/

namespace Formula

/-- References that are joined to a sentence count beside its last operand. -/
theorem evaluate_joined (r : Outcomes) (s : Sentence) (extra : List Nat) :
    evaluate r (joined s.elements extra) = s.meaningOr r.holds (extra.any r.holds) := by
  rw [joined_elements, evaluate_elements, s.meaning_orRefs]

/-- References alone hold if one of them does. -/
theorem evaluate_joined_nil (r : Outcomes) (extra : List Nat) :
    evaluate r (joined [] extra) = extra.any r.holds := by
  rcases extra with _ | ⟨id, extra⟩
  · unfold evaluate Tree.ofElements joined
    simp [Tree.build, Tree.evaluate, LogicOp.combine]
  · rw [joined_nil, evaluate_elements, Operand.meaning_orRefs]
    simp [Operand.meaning, Primary.meaning]

end Formula

/-- A condition that holds has an outcome. -/
theorem Outcomes.any_filter_lookup (r : Outcomes) (ids : List Nat) :
    (ids.filter fun id => (r.entries.lookup id).isSome).any r.holds = ids.any r.holds := by
  rw [List.any_filter]
  congr 1
  funext id
  rcases h : r.entries.lookup id with _ | b <;> simp [h]

namespace RuleSet

/-! ## The formula of a rule set -/

theorem Sound.normalized_eq {s : RuleSet} (h : s.Sound) {maxId : Nat} (hm : s.maxId? = some maxId) :
    s.normalized = Formula.normalize maxId s.equation.elements := by
  unfold normalized
  rw [hm]
  exact h.fresh.normalized_eq maxId

theorem Sound.apply_eq {s : RuleSet} (h : s.Sound) {maxId : Nat} (hm : s.maxId? = some maxId)
    (r : Outcomes) :
    s.apply r = Formula.evaluate r (Formula.normalize maxId s.equation.elements) := by
  unfold apply
  rw [hm, ← h.normalized_eq hm]

theorem exists_maxId {s : RuleSet} (h : s.isEmpty = false) : ∃ maxId, s.maxId? = some maxId := by
  unfold isEmpty at h
  unfold maxId?
  rcases hc : s.conditions.getLast? with _ | e
  · simp_all
  · exact ⟨e.1, rfl⟩

/-- The conditions that the repaired formula leaves out count beside its last operand, with `or`,
and beside no other. If nothing is left of the formula, one condition that holds is enough. So a
condition without an outcome changes nothing by being joined to the formula. -/
theorem conditions_left_out_count_beside_the_last_operand {s : RuleSet} (h : s.Reachable)
    (hc : s.isEmpty = false) (r : Outcomes) :
    ∃ maxId es, s.maxId? = some maxId ∧ Formula.repair maxId s.equation.elements = .ok es ∧
      (es = [] → s.apply r = (List.range (maxId + 1)).any r.holds) ∧
      (es ≠ [] → (∃ t : Formula.Sentence, t.elements = es) ∧
        ∀ t : Formula.Sentence, t.elements = es →
          s.apply r = t.meaningOr r.holds ((Formula.missing maxId es).any r.holds)) ∧
      s.apply r = Formula.evaluate r (Formula.joined es
        ((Formula.missing maxId es).filter fun id => (r.entries.lookup id).isSome)) := by
  obtain ⟨maxId, hm⟩ := exists_maxId hc
  have happly := h.sound.apply_eq hm r
  rw [Formula.normalize_eq] at happly
  refine ⟨maxId, _, hm, Formula.repair_eq maxId s.equation.elements, ?_⟩
  generalize hes : Formula.repaired maxId s.equation.elements = es at *
  by_cases he : es = []
  · rw [he, Formula.evaluate_joined_nil] at happly
    refine ⟨?_, fun hne => absurd he hne, ?_⟩
    · intro _
      rw [happly, Formula.missing_nil, List.range_succ_eq_map]
    · rw [happly, he, Formula.evaluate_joined_nil, Outcomes.any_filter_lookup]
  · obtain ⟨⟨t, ht⟩, -⟩ := Formula.isSentence_repaired (hes ▸ he)
    rw [hes] at ht
    refine ⟨fun hnil => absurd hnil he, fun _ => ⟨⟨t, ht⟩, ?_⟩, ?_⟩
    · intro u hu
      rw [happly, ← hu, Formula.evaluate_joined]
    · rw [happly, ← ht, Formula.evaluate_joined, Formula.evaluate_joined,
        Outcomes.any_filter_lookup]

/-- The formula `a.c` over the conditions 0, 2 and 3 leaves out 3, which counts beside `c` and not
beside the whole formula. -/
theorem a_condition_left_out_counts_beside_c :
    let c := Condition.disabled 0 .eq
    let s := ((((new "gap").setElements [.ref 0, .op .and, .ref 2]).add 0 c).add 2 c).add 3 c
    s.Reachable ∧ s.isEmpty = false ∧ s.apply ⟨[(0, false), (3, true)]⟩ = false ∧
      s.apply ⟨[(0, true), (3, true)]⟩ = true := by
  intro c s
  have hc : c.Reachable := .disabled 0 .eq
  have hs : s.Reachable := ((((Reachable.new "gap").setElements _).add 0 hc).add 2 hc).add 3 hc
  have hne : s.isEmpty = false := rfl
  let t : Formula.Sentence := .join (.plain (.ref 0)) ⟨.and, rfl⟩ (.operand (.plain (.ref 2)))
  have hrepair : Formula.repair 3 t.elements = .ok t.elements := rfl
  have hmissing : Formula.missing 3 t.elements = [1, 3] := by decide
  have happly : ∀ r, s.apply r = t.meaningOr r.holds ([1, 3].any r.holds) := by
    intro r
    obtain ⟨maxId, es, hm, hes, -, hlast, -⟩ :=
      conditions_left_out_count_beside_the_last_operand hs hne r
    cases hm
    cases hrepair.symm.trans hes
    rw [← hmissing]
    exact (hlast t.elements_ne_nil).2 t rfl
  exact ⟨hs, hne, by rw [happly]; rfl, by rw [happly]; rfl⟩

end RuleSet

end Verdict
