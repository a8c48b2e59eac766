-- What a store is asked and what it answers, one request after the other. The
-- map that a store is gives the same answers, and is changed in the same way.
import Verdict.Proofs.Store.Map

namespace Verdict

/-- What is asked of a store. A definition comes with the new id that it may need. -/
inductive Request where
  | load (r : RuleSet)
  | loadDefinition (newId : String) (d : RuleSetDefinition)
  | loadBatch (ds : List (String × RuleSetDefinition))
  | loadText (newId text : String)
  | update (r : RuleSet)
  | delete (id : String)
  | clear
  | get (id : String)
  | evaluate (id : String) (record : Record) (now : Moment)

/-- The id that must be there. -/
def Request.needs? : Request → Option String
  | .update r => some r.id
  | .delete id => some id
  | .evaluate id _ _ => some id
  | _ => none

inductive Answer where
  | done
  | loaded (ids : List String)
  | found (r : Option RuleSet)
  | evaluated (e : Evaluation)
  | refused (fault : Fault)

/-- The rule set that is found. -/
def Answer.found? : Answer → Option RuleSet
  | .found r => r
  | _ => none

def Answer.ofResult {α : Type} (answer : α → Answer) : Except Fault α → Answer
  | .ok a => answer a
  | .error fault => .refused fault

/-! ## Answers of a store -/

/-- What a store answers, and the store after it. -/
def Store.respond (s : Store) : Request → Answer × Store
  | .load r => (.loaded [(s.load r).1], (s.load r).2)
  | .loadDefinition newId d =>
    (.loaded [(s.loadDefinition newId d).1], (s.loadDefinition newId d).2)
  | .loadBatch ds => (.loaded (s.loadBatch ds).1, (s.loadBatch ds).2)
  | .loadText newId text =>
    (.ofResult (fun id => .loaded [id]) (s.loadText newId text).1, (s.loadText newId text).2)
  | .update r => (.ofResult (fun _ => .done) (s.update r).1, (s.update r).2)
  | .delete id => (.ofResult (fun _ => .done) (s.delete id).1, (s.delete id).2)
  | .clear => (.done, s.clear)
  | .get id => (.found (s.get? id), s)
  | .evaluate id record now =>
    (.ofResult .evaluated (s.evaluate id record now).1, (s.evaluate id record now).2)

/-! ## Answers of a map -/

namespace RuleSetMap

/-- Puts a rule set under its id. -/
def add (m : RuleSetMap) (r : RuleSet) : RuleSetMap := m.insert r.id r

/-- What a map of rule sets answers, and the map after it. A rule set is made of each definition
and its new id. -/
def respond (made : String → RuleSetDefinition → RuleSet) (m : RuleSetMap) :
    Request → Answer × RuleSetMap
  | .load r => (.loaded [r.id], m.add r)
  | .loadDefinition newId d => (.loaded [(made newId d).id], m.add (made newId d))
  | .loadBatch ds =>
    let rs := ds.map fun q => made q.1 q.2
    (.loaded (rs.map RuleSet.id), rs.foldl add m)
  | .loadText newId text =>
    match RuleSetDefinition.ofText? text with
    | some d => (.loaded [(made newId d).id], m.add (made newId d))
    | none => (.refused .notJson, m)
  | .update r => if r.id ∈ m then (.done, m.add r) else (.refused (.unknownRuleSet r.id), m)
  | .delete id => if id ∈ m then (.done, m.erase id) else (.refused (.unknownRuleSet id), m)
  | .clear => (.done, ∅)
  | .get id => (.found (m.lookup id), m)
  | .evaluate id record now =>
    match m.lookup id with
    | some r => (.evaluated (r.evaluate record now), m.insert id (r.evaluated record now))
    | none => (.refused (.unknownRuleSet id), m)

end RuleSetMap

/-- A rule set keeps its id in an evaluation. -/
theorem RuleSet.id_evaluated (s : RuleSet) (record : Record) (now : Moment) :
    (s.evaluated record now).id = s.id := by
  unfold evaluated repaired
  split <;> rfl

namespace Store

/-! ## Refusals -/

/-- A text that is no definition is refused, and the store stays as it was. -/
theorem respond_of_notJson {s : Store} {newId text : String}
    (h : RuleSetDefinition.ofText? text = none) :
    s.respond (.loadText newId text) = (.refused .notJson, s) := by
  simp only [respond, loadText, h]
  rfl

/-- A rule set that is not there is refused, and the store stays as it was. -/
theorem respond_of_unknown {s : Store} {q : Request} {id : String} (hq : q.needs? = some id)
    (h : id ∉ s.map) : s.respond q = (.refused (.unknownRuleSet id), s) := by
  have hcontains : s.contains id = false := by rw [contains_eq, decide_eq_false h]
  have hget : s.get? id = none := by
    rw [← lookup_map]
    exact Finmap.lookup_eq_none.mpr h
  cases q with
  | update r =>
    cases hq
    simp only [respond, update, hcontains]
    rfl
  | delete id =>
    cases hq
    -- The entries are filtered all the same, and none of them goes.
    have herase := Keyed.erase_of_find?_eq_none hget
    simp only [respond, delete, hcontains, herase]
    rfl
  | evaluate id record now =>
    cases hq
    simp only [respond, evaluate, hget]
    rfl
  | _ => cases hq

/-! ## Answers -/

theorem respond_loadText {s : Store} {newId text : String} {d : RuleSetDefinition}
    (h : RuleSetDefinition.ofText? text = some d) :
    s.respond (.loadText newId text) = s.respond (.loadDefinition newId d) := by
  simp only [respond, loadText, h]
  rfl

theorem respond_update {s : Store} {r : RuleSet} (h : r.id ∈ s.map) :
    s.respond (.update r) = (.done, (s.load r).2) := by
  have hcontains : s.contains r.id = true := by rw [contains_eq, decide_eq_true h]
  simp only [respond, update, hcontains]
  rfl

theorem respond_delete {s : Store} {id : String} (h : id ∈ s.map) :
    s.respond (.delete id) = (.done, (s.delete id).2) := by
  have hcontains : s.contains id = true := by rw [contains_eq, decide_eq_true h]
  simp only [respond, delete, hcontains]
  rfl

theorem respond_evaluate {s : Store} {id : String} {r : RuleSet} (h : s.get? id = some r)
    (record : Record) (now : Moment) : s.respond (.evaluate id record now) =
      (.evaluated (r.evaluate record now), s.put id (r.evaluated record now)) := by
  simp only [respond, evaluate, h]
  rfl

/-! ## The map of the store -/

theorem map_load (s : Store) (r : RuleSet) : (s.load r).2.map = s.map.add r := s.map_put r.id r

theorem loadBatch_map (s : Store) (ds : List (String × RuleSetDefinition)) :
    let rs := ds.map fun q => s.ofDefinition q.1 q.2
    (s.loadBatch ds).1 = rs.map RuleSet.id ∧ (s.loadBatch ds).2.map = rs.foldl .add s.map := by
  induction ds generalizing s with
  | nil => exact ⟨rfl, rfl⟩
  | cons q rest ih =>
    obtain ⟨hids, hmap⟩ := ih (s.loadDefinition q.1 q.2).2
    refine ⟨congrArg _ hids, hmap.trans ?_⟩
    rw [loadDefinition, map_load]
    rfl

/-- The map of a store answers as the store does, and stays the map of the store. -/
theorem respond_map (s : Store) (q : Request) :
    s.map.respond s.ofDefinition q = ((s.respond q).1, (s.respond q).2.map) := by
  -- A text that can be read is loaded as the definition that it is.
  have hdefinition : ∀ newId d, s.map.respond s.ofDefinition (.loadDefinition newId d) =
      ((s.respond (.loadDefinition newId d)).1, (s.respond (.loadDefinition newId d)).2.map) := by
    intro newId d
    simp only [respond, loadDefinition, map_load]
    rfl
  cases q with
  | load r =>
    simp only [respond, map_load]
    rfl
  | loadDefinition newId d => exact hdefinition newId d
  | loadBatch ds =>
    obtain ⟨hids, hmap⟩ := s.loadBatch_map ds
    simp only [respond, hids, hmap]
    rfl
  | loadText newId text =>
    rcases hd : RuleSetDefinition.ofText? text with _ | d
    · rw [respond_of_notJson hd]
      simp only [RuleSetMap.respond, hd]
    · rw [respond_loadText hd, ← hdefinition]
      simp only [RuleSetMap.respond, hd]
  | update r =>
    by_cases h : r.id ∈ s.map
    · rw [respond_update h, map_load]
      exact if_pos h
    · rw [respond_of_unknown rfl h]
      exact if_neg h
  | delete id =>
    by_cases h : id ∈ s.map
    · rw [respond_delete h, delete, map_erase]
      exact if_pos h
    · rw [respond_of_unknown rfl h]
      exact if_neg h
  | clear => simp only [respond, RuleSetMap.respond, map_clear]
  | get id => simp only [respond, RuleSetMap.respond, lookup_map]
  | evaluate id record now =>
    rcases hr : s.get? id with _ | r
    · have hid : id ∉ s.map := Finmap.lookup_eq_none.mp (s.lookup_map id ▸ hr)
      rw [respond_of_unknown rfl hid]
      simp only [RuleSetMap.respond, lookup_map, hr]
    · rw [respond_evaluate hr, map_put]
      simp only [RuleSetMap.respond, lookup_map, hr]

/-! ## What stays -/

/-- What loads, deletions, evaluations and clearing keep, every request keeps. -/
theorem respond_keeps {P : Store → Prop} (hload : ∀ t r, P t → P (t.load r).2)
    (hdelete : ∀ t id, P t → P (t.delete id).2) (hclear : ∀ t, P t → P t.clear)
    (hevaluate : ∀ t id record now, P t → P (t.evaluate id record now).2)
    {s : Store} (h : P s) (q : Request) : P (s.respond q).2 := by
  cases q with
  | load r => exact hload s r h
  | loadDefinition newId d => exact hload s _ h
  | loadBatch ds =>
    show P (s.loadBatch ds).2
    induction ds generalizing s with
    | nil => exact h
    | cons q rest ih => exact ih (hload s _ h)
  | loadText newId text =>
    show P (s.loadText newId text).2
    unfold loadText
    split
    · exact hload s _ h
    · exact h
  | update r =>
    show P (s.update r).2
    unfold update
    split
    · exact hload s r h
    · exact h
  | delete id => exact hdelete s id h
  | clear => exact hclear s h
  | get id => exact h
  | evaluate id record now => exact hevaluate s id record now h

/-- A store makes rule sets of definitions as it did before. -/
theorem ofDefinition_respond (s : Store) (q : Request) :
    (s.respond q).2.ofDefinition = s.ofDefinition := by
  refine respond_keeps (P := fun t => t.ofDefinition = s.ofDefinition) (fun _ _ h => h)
    (fun _ _ h => h) (fun _ h => h) (fun t id record now h => ?_) rfl q
  unfold evaluate
  split <;> exact h

theorem Orderly.respond {s : Store} (h : s.Orderly) (q : Request) : (s.respond q).2.Orderly := by
  refine respond_keeps (fun _ _ h => h.put rfl) (fun _ id h => h.erase id)
    (fun _ _ => .clear) (fun t id record now h => ?_) h q
  unfold evaluate
  split
  · rename_i r hr
    exact h.put ((r.id_evaluated record now).trans (h.named id r hr))
  · exact h

end Store

end Verdict
