-- The ids of conditions. Whatever is done with a rule set, each of its conditions
-- has the id that it is stored under, and that id is within the bound. So a
-- formula is only ever repaired for an id within the bound, and a disabled
-- condition goes by the name of its id.
import Verdict.Proofs.RuleSet.Trace

namespace Verdict

namespace Condition

/-! ## A condition in its place -/

/-- The condition may stand under the id: the id is its own and within the bound, and if it is
disabled it goes by the id. -/
structure Fits (c : Condition) (id : Nat) : Prop where
  id_eq : c.id = id
  le : id ≤ maxConditionId
  goesById : c.isEnabled = false → c.name = idAlias id ∧ c.label = idAlias id

/-- A condition fits an id that it is put under, whatever it was before. -/
theorem fits_withId (c : Condition) {id : Nat} (h : id ≤ maxConditionId) :
    (c.withId id).Fits id := by
  refine ⟨c.id_withId id, h, ?_⟩
  unfold withId
  split
  · rename_i ho
    intro he
    simp [isEnabled, ho] at he
  · intro _
    exact ⟨rfl, rfl⟩

theorem tested_of_disabled {c : Condition} (h : c.isEnabled = false) (x : Context) :
    c.tested x = c := by
  unfold tested
  split
  · rfl
  · rename_i ho
    simp [isEnabled, ho] at h

/-- A test renames enabled conditions only. -/
theorem Fits.tested {c : Condition} {id : Nat} (h : c.Fits id) (x : Context) :
    (c.tested x).Fits id := by
  refine ⟨(c.id_tested x).trans h.id_eq, h.le, ?_⟩
  intro he
  have hc : c.isEnabled = false := by
    unfold isEnabled at he ⊢
    rwa [operands_tested] at he
  rw [tested_of_disabled hc]
  exact h.goesById hc

/-- A definition that is right gives an enabled condition with the id that is written. -/
theorem of_ofDefinition {d : ConditionDefinition} {c : Condition} (h : ofDefinition d = .ok c) :
    d.id.number = .ok c.id ∧ c.isEnabled = true := by
  unfold ofDefinition at h
  rcases hid : d.id.number with fault | id
  · rw [hid] at h
    cases h
  · simp only [hid, bind, Except.bind] at h
    repeat' split at h
    all_goals cases h
    exact ⟨rfl, rfl⟩

end Condition

namespace ConditionDefinition

variable {d : ConditionDefinition} {id : Nat}

theorem fits_condition (h : d.id.number = .ok id) : (d.condition id).Fits id := by
  have hle := ConditionId.number_le h
  unfold condition
  split
  · rename_i c hc
    obtain ⟨hid, he⟩ := Condition.of_ofDefinition hc
    rw [h] at hid
    cases hid
    refine ⟨rfl, hle, ?_⟩
    intro hdisabled
    rw [he] at hdisabled
    cases hdisabled
  · exact ⟨rfl, hle, fun _ => ⟨rfl, rfl⟩⟩

theorem number_of_entry {e : Nat × Condition} (h : d.entry? = some e) :
    d.id.number = .ok e.1 ∧ e.2 = d.condition e.1 := by
  unfold entry? at h
  split at h
  · rename_i hid
    cases h
    exact ⟨hid, rfl⟩
  · cases h

end ConditionDefinition

namespace RuleSet

variable {s : RuleSet}

/-! ## All conditions of a rule set -/

/-- What holds of a condition when it is read from a definition or put in, and is kept by a test,
holds of all conditions of a rule set. -/
theorem Reachable.forall_condition {P : Nat → Condition → Prop}
    (hread : ∀ (d : ConditionDefinition) id, d.id.number = .ok id → P id (d.condition id))
    (hput : ∀ (c : Condition) id, c.Reachable → id ≤ maxConditionId → P id (c.withId id))
    (htested : ∀ (c : Condition) id x, P id c → P id (c.tested x)) (h : s.Reachable) :
    ∀ e ∈ s.conditions, P e.1 e.2 := by
  induction h with
  | new _ => simp [RuleSet.new]
  | ofDefinition r newId d =>
    intro e he
    obtain ⟨c, -, hc⟩ := List.mem_filterMap.mp (Keyed.mem_of_mem_ofList he)
    obtain ⟨hid, heq⟩ := ConditionDefinition.number_of_entry hc
    rw [heq]
    exact hread c e.1 hid
  | @add s c id _ hc ih =>
    unfold RuleSet.add
    split
    · rename_i hle
      intro e he
      rcases Keyed.mem_of_mem_insert he with rfl | he
      · exact hput c id hc hle
      · exact ih e he
    · exact ih
  | remove id _ ih => exact fun e he => ih e (Keyed.mem_of_mem_erase he)
  | repaired _ ih =>
    rw [conditions_repaired]
    exact ih
  | evaluated record now _ ih =>
    unfold RuleSet.evaluated
    rw [conditions_repaired]
    intro e he
    obtain ⟨f, hf, rfl⟩ := List.mem_map.mp he
    exact htested f.2 f.1 _ (ih f hf)
  | withReporter _ _ ih | withOptions _ _ ih | withTrace _ ih | setFormula _ _ ih
  | setElements _ _ ih | setEquation _ _ ih => exact ih

/-- Every condition fits the id that it is stored under. -/
theorem Reachable.fits (h : s.Reachable) : ∀ e ∈ s.conditions, e.2.Fits e.1 :=
  h.forall_condition (P := fun id c => c.Fits id)
    (fun _ _ hid => ConditionDefinition.fits_condition hid)
    (fun c _ _ hle => c.fits_withId hle) (fun _ _ x hc => hc.tested x)

/-- A condition that is taken out can be put in again. -/
theorem Reachable.reachable_condition (h : s.Reachable) : ∀ e ∈ s.conditions, e.2.Reachable :=
  h.forall_condition (P := fun _ c => c.Reachable) (fun d id _ => d.reachable_condition id)
    (fun _ id hc _ => hc.withId id) (fun _ _ x hc => hc.tested x)

theorem Reachable.maxId?_le (h : s.Reachable) {maxId : Nat} (hm : s.maxId? = some maxId) :
    maxId ≤ maxConditionId := by
  obtain ⟨e, he, rfl⟩ := Option.map_eq_some_iff.mp hm
  exact (h.fits e (List.mem_of_getLast? he)).le

/-! ## What is kept -/

/-- A repair of a rule set is one for the largest id of its conditions, if it has any. -/
theorem equation_repaired (s : RuleSet) :
    s.repaired.equation = s.equation ∨
      ∃ maxId, s.maxId? = some maxId ∧ s.repaired.equation = s.equation.normalize maxId := by
  unfold repaired
  split
  · rename_i maxId hm
    exact Or.inr ⟨maxId, hm, rfl⟩
  · exact Or.inl rfl

/-- Each condition has the id that it is stored under, within the bound. A disabled one has the
name of that id as its name and label, and an enabled one goes by its label unless `copy` renames
it. So a repair of the formula, for itself or in an evaluation, is one for an id within the bound.
A condition that is added under an id out of bounds changes nothing, and gives one warning. -/
theorem conditions_keep_their_ids_and_names (h : s.Reachable) :
    (∀ e ∈ s.conditions, e.2.id = e.1 ∧ e.1 ≤ maxConditionId ∧
      (e.2.isEnabled = false → e.2.name = idAlias e.1 ∧ e.2.label = idAlias e.1) ∧
      (e.2.isEnabled = true → e.2.comparator ≠ .copy → e.2.name = e.2.label)) ∧
    (∀ maxId, s.maxId? = some maxId → maxId ≤ maxConditionId) ∧
    (∀ t, t = s.repaired ∨ (∃ record now, t = s.evaluated record now) →
      t.equation = s.equation ∨
        ∃ maxId ≤ maxConditionId, t.equation = s.equation.normalize maxId) ∧
    ∀ id c, maxConditionId < id → s.add id c = s ∧ s.replaced? id = none ∧
      ∃ message, addReports id c = [.warning message c.label] := by
  have hrepaired : s.repaired.equation = s.equation ∨
      ∃ maxId ≤ maxConditionId, s.repaired.equation = s.equation.normalize maxId := by
    rcases equation_repaired s with he | ⟨maxId, hm, he⟩
    · exact Or.inl he
    · exact Or.inr ⟨maxId, h.maxId?_le hm, he⟩
  refine ⟨?_, fun maxId hm => h.maxId?_le hm, ?_, ?_⟩
  · intro e he
    have hfits := h.fits e he
    exact ⟨hfits.id_eq, hfits.le, hfits.goesById, h.sound.goesByLabel e he⟩
  · rintro t (rfl | ⟨record, now, rfl⟩)
    · exact hrepaired
    · rw [equation_evaluated]
      exact hrepaired
  · intro id c hid
    have hnot : ¬ id ≤ maxConditionId := by omega
    unfold add replaced? addReports
    rw [if_neg hnot, if_neg hnot, if_neg hnot]
    exact ⟨rfl, rfl, _, rfl⟩

/-- A condition that copied a name is taken out, disabled, and put under another id: then it goes by
that id. -/
theorem a_moved_condition_goes_by_its_new_id :
    let copy := Condition.ofOperands 0 (.field "name") .copy (.literal .string "")
    let now := Moment.midnight ⟨2024, 2, 29, by decide⟩
    let used := ((new "moved").add 0 copy).evaluated (.fields [("name", "Ann")]) now
    ∃ c, used.condition? 0 = some c ∧ c.name = "Ann" ∧
      let s := (used.remove 0).add 3 c.disable
      s.Reachable ∧ s.condition? 3 = some (c.disable.withId 3) ∧
        (c.disable.withId 3).name = "D" ∧ s.add 4096 copy = s := by
  intro copy now used
  let c : Condition := ⟨0, copy.label, "Ann", .copy, copy.operands⟩
  have hused : used.Reachable := ((Reachable.new "moved").add 0 (.ofOperands ..)).evaluated _ now
  have hc : used.condition? 0 = some c := by decide +kernel
  refine ⟨c, hc, rfl, ?_⟩
  intro s
  have hs : s.Reachable :=
    (hused.remove 0).add 3 (hused.reachable_condition _ (Keyed.mem_of_find? hc)).disable
  have hfound : s.condition? 3 = some (c.disable.withId 3) := by decide +kernel
  obtain ⟨hall, -, -, hadd⟩ := conditions_keep_their_ids_and_names hs
  have hname := (hall _ (Keyed.mem_of_find? hfound)).2.2.1 rfl
  exact ⟨hs, hfound, hname.1.trans (by decide), (hadd 4096 copy (by decide)).1⟩

end RuleSet

end Verdict
