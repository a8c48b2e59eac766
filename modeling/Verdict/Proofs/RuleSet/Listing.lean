-- The list of the conditions that hold. Each condition is tested for itself: the
-- list does not depend on the formula, nor one outcome on another, nor either of
-- them on the order in which the conditions are defined.
import Verdict.Proofs.RuleSet.Numbering

namespace Verdict

namespace RuleSet

variable {s : RuleSet}

/-! ## Conditions one by one -/

theorem holds_outcomes (s : RuleSet) (x : Context) (id : Nat) :
    (s.outcomes x).holds id = ((s.condition? id).map (Condition.holds x)).getD false := by
  unfold Outcomes.holds outcomes condition?
  rw [Keyed.lookup_eq_find?, Keyed.find?_map]

theorem condition?_evaluated (s : RuleSet) (record : Record) (now : Moment) (id : Nat) :
    (s.evaluated record now).condition? id =
      (s.condition? id).map (Condition.tested (s.context record now)) := by
  unfold evaluated condition?
  rw [conditions_repaired]
  exact Keyed.find?_map id _ _

/-! ## The list -/

/-- The conditions that hold, by their ids, with the names under which they are listed. -/
def matchedEntries (s : RuleSet) (x : Context) : List (Nat × String) :=
  (s.conditions.filter fun e => e.2.holds x).map fun e => (e.1, (e.2.tested x).name)

theorem matchedConditions_evaluate (s : RuleSet) (record : Record) (now : Moment) :
    (s.evaluate record now).matchedConditions =
      (s.matchedEntries (s.context record now)).map Prod.snd := by
  unfold matchedEntries
  rw [List.map_map]
  rfl

theorem Sound.sorted_matchedEntries (h : s.Sound) (x : Context) :
    Keyed.Sorted (s.matchedEntries x) :=
  Keyed.Sorted.map (h.sorted.sublist List.filter_sublist) fun c => (c.tested x).name

theorem Sound.mem_matchedEntries (h : s.Sound) {x : Context} {id : Nat} {name : String} :
    (id, name) ∈ s.matchedEntries x ↔
      ∃ c, s.condition? id = some c ∧ c.holds x = true ∧ (c.tested x).name = name := by
  unfold matchedEntries
  constructor
  · intro hmem
    obtain ⟨e, he, heq⟩ := List.mem_map.mp hmem
    obtain ⟨hin, hx⟩ := List.mem_filter.mp he
    cases heq
    exact ⟨e.2, h.sorted.find?_of_mem hin, hx, rfl⟩
  · rintro ⟨c, hc, hx, rfl⟩
    have hin : (id, c) ∈ s.conditions.filter fun e => e.2.holds x :=
      List.mem_filter.mpr ⟨Keyed.mem_of_find? hc, hx⟩
    exact List.mem_map.mpr ⟨(id, c), hin, rfl⟩

end RuleSet

/-! ## The order of definitions -/

namespace ConditionDefinition

/-- The id of the definition denotes the number. -/
def hasId (id : Nat) (d : ConditionDefinition) : Bool := decide (d.id.number.toOption = some id)

/-- One list of definitions is the other one in another order, and definitions whose ids denote the
same number stand in the same order in both. -/
structure Reordered (as bs : List ConditionDefinition) : Prop where
  perm : as.Perm bs
  same_order : ∀ id, as.filter (hasId id) = bs.filter (hasId id)

/-- Two neighbours may change places if no number is denoted by the ids of both. -/
theorem reordered_swap {a b : ConditionDefinition} (ds : List ConditionDefinition)
    (h : ∀ id, a.hasId id = true → b.hasId id = false) :
    Reordered (a :: b :: ds) (b :: a :: ds) := by
  refine ⟨List.Perm.swap b a ds, fun id => ?_⟩
  rcases ha : a.hasId id with _ | _
  · rw [List.filter_cons_of_neg (by simp [ha]), List.filter_cons, List.filter_cons]
    simp [ha]
  · have hb := h id ha
    simp [ha, hb]

theorem entry?_of_number {d : ConditionDefinition} {id : Nat} (h : d.id.number = .ok id) :
    d.entry? = some (id, d.condition id) := by
  unfold entry?
  rw [h]

/-- The conditions with an id come from the definitions with that id. -/
theorem filter_entries (ds : List ConditionDefinition) (id : Nat) :
    (ds.filterMap entry?).filter (fun e => e.1 = id) = (ds.filter (hasId id)).filterMap entry? := by
  induction ds with
  | nil => rfl
  | cons d ds ih =>
    rcases hn : d.id.number with fault | n
    · have hentry : d.entry? = none := by
        unfold entry?
        rw [hn]
      have hid : d.hasId id = false := by
        unfold hasId
        rw [hn]
        rfl
      rw [List.filterMap_cons_none hentry, List.filter_cons_of_neg (by simp [hid]), ih]
    · have hentry := entry?_of_number hn
      have hid : d.hasId id = decide (n = id) := by
        unfold hasId
        rw [hn]
        simp [Except.toOption]
      by_cases hk : n = id
      · rw [List.filterMap_cons_some hentry, List.filter_cons_of_pos (by simpa using hk),
          List.filter_cons_of_pos (by simpa [hid] using hk), List.filterMap_cons_some hentry, ih]
      · rw [List.filterMap_cons_some hentry, List.filter_cons_of_neg (by simpa using hk),
          List.filter_cons_of_neg (by simpa [hid] using hk), ih]

theorem Reordered.ofList_eq {as bs : List ConditionDefinition} (h : Reordered as bs) :
    Keyed.ofList (as.filterMap entry?) = Keyed.ofList (bs.filterMap entry?) := by
  refine Keyed.ofList_congr fun id => ?_
  rw [filter_entries, filter_entries, h.same_order id]

end ConditionDefinition

namespace RuleSet

/-- The conditions that hold are listed once each, in the order of their ids, under the names that
the evaluation leaves, and no equation changes the list. Definitions of conditions in another order
give the same verdict and the same list, as long as those of one id keep their order. -/
theorem every_condition_is_tested_for_itself :
    (∀ s : RuleSet, s.Reachable → ∀ record now, ∃ entries : List (Nat × String),
      entries.Pairwise (fun a b => a.1 < b.1) ∧
      (∀ id name, (id, name) ∈ entries ↔ ∃ c, s.condition? id = some c ∧
        c.holds (s.context record now) = true ∧
        ((s.evaluated record now).condition? id).map Condition.name = some name) ∧
      (s.evaluate record now).matchedConditions = entries.map Prod.snd ∧
      ∀ q, ((s.setEquation q).evaluate record now).matchedConditions =
        (s.evaluate record now).matchedConditions) ∧
    ∀ (d : RuleSetDefinition) ds, ConditionDefinition.Reordered d.conditions ds →
      ∀ r r' newId newId' options record now,
        (((ofDefinition r newId d).withOptions options).evaluate record now).verdict =
          (((ofDefinition r' newId' { d with conditions := ds }).withOptions options).evaluate
            record now).verdict := by
  constructor
  · intro s hs record now
    refine ⟨s.matchedEntries (s.context record now), hs.sound.sorted_matchedEntries _, ?_,
      matchedConditions_evaluate s record now, fun q => rfl⟩
    intro id name
    rw [hs.sound.mem_matchedEntries, condition?_evaluated]
    constructor
    · rintro ⟨c, hc, hx, rfl⟩
      exact ⟨c, hc, hx, by rw [hc]; rfl⟩
    · rintro ⟨c, hc, hx, hname⟩
      refine ⟨c, hc, hx, ?_⟩
      rw [hc] at hname
      simpa using hname
  · intro d ds h r r' newId newId' options record now
    have hs := (Reachable.ofDefinition r newId d).withOptions options
    have ht := (Reachable.ofDefinition r' newId' { d with conditions := ds }).withOptions options
    have hconditions : (ofDefinition r newId d).conditions =
        (ofDefinition r' newId' { d with conditions := ds }).conditions := h.ofList_eq
    have hsame : SameContent ((ofDefinition r newId d).withOptions options)
        ((ofDefinition r' newId' { d with conditions := ds }).withOptions options) :=
      ⟨fun id => congrArg (fun es => (Keyed.find? id es).map Condition.content) hconditions,
        rfl, rfl⟩
    exact hsame.verdict_eq hs.sound ht.sound record now

/-- Of two definitions with the id 0 the last one counts. It is not right, so only the condition 1
is listed, also under a formula that makes no sense, and also if its definition comes first. -/
theorem one_list_for_other_formulas_and_orders :
    let blank := NodeDefinition.literal "String" ""
    let a : ConditionDefinition := ⟨.label "A", "Copy", some (.field "name"), some blank⟩
    let b : ConditionDefinition := ⟨.index 1, "Copy", some (.field "city"), some blank⟩
    let c : ConditionDefinition := ⟨.label "a", "Eq", none, none⟩
    let d : RuleSetDefinition := ⟨some "trip", none, [a, b, c], .formula "-b"⟩
    let record := Record.fields [("city", "Rome"), ("name", "Ann")]
    let now := Moment.midnight ⟨2024, 2, 29, by decide⟩
    let s := ofDefinition {} "new" d
    let t := ofDefinition {} "new" { d with conditions := [b, a, c] }
    s.Reachable ∧ ConditionDefinition.Reordered d.conditions [b, a, c] ∧
      (s.evaluate record now).matchedConditions = ["Rome"] ∧
      ((s.setEquation { elements := [.op .closeParen] }).evaluate record now).matchedConditions =
        ["Rome"] ∧
      (t.evaluate record now).verdict = (s.evaluate record now).verdict := by
  intro blank a b c d record now s t
  have hs : s.Reachable := .ofDefinition {} "new" d
  have hreordered : ConditionDefinition.Reordered d.conditions [b, a, c] := by
    refine ConditionDefinition.reordered_swap [c] fun id ha => ?_
    have hzero : a.id.number.toOption = some 0 := by decide +kernel
    have hid : 0 = id := by simpa [ConditionDefinition.hasId, hzero] using ha
    rw [← hid]
    decide +kernel
  have hlist : (s.evaluate record now).matchedConditions = ["Rome"] := by decide +kernel
  obtain ⟨halone, horder⟩ := every_condition_is_tested_for_itself
  obtain ⟨entries, -, -, -, hequation⟩ := halone s hs record now
  exact ⟨hs, hreordered, hlist, (hequation _).trans hlist,
    (horder d [b, a, c] hreordered {} {} "new" "new" {} record now).symm⟩

end RuleSet

end Verdict
