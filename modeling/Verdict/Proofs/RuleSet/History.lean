-- An evaluation does not depend on the history of the rule set. What counts
-- are the conditions as they were stated, the elements of the formula, and the
-- options. The names that `copy` leaves behind and the repair that is kept do
-- not count, so each record of a list gets what a fresh rule set gives it.
import Verdict.Proofs.RuleSet.Formula

namespace Verdict

/-! ## Conditions as they were stated -/

/-- What is stated about a condition: its label, its comparator and its operands. -/
abbrev Content := String × Comparator × Option (ValueNode × ValueNode)

namespace Condition

def content (c : Condition) : Content := (c.label, c.comparator, c.operands)

/-- A condition of the content that goes by its label. -/
def ofContent (a : Content) : Condition := ⟨0, a.1, a.1, a.2.1, a.2.2⟩

theorem content_tested (x : Context) (c : Condition) : (c.tested x).content = c.content := by
  have hcomp : (c.tested x).comparator = c.comparator := by
    unfold tested
    split
    · rfl
    · split <;> rfl
  unfold content
  rw [label_tested, hcomp, operands_tested]

/-- A condition that holds is listed under a name that its content tells, whatever its name was
before. -/
theorem GoesByLabel.name_tested {c : Condition} (h : c.GoesByLabel) {x : Context}
    (hx : c.holds x = true) : (c.tested x).name = ((ofContent c.content).tested x).name := by
  rcases ho : c.operands with _ | ⟨left, right⟩
  · unfold holds outcome at hx
    simp [ho] at hx
  · simp only [Condition.tested, ofContent, content, ho]
    by_cases hcopy : c.comparator = .copy
    · simp only [hcopy, if_true]
    · simp only [hcopy, if_false]
      exact h (by simp [isEnabled, ho]) hcopy

end Condition

/-! ## Rule sets that hold the same -/

/-- The verdict of an evaluation, and the names of the conditions that hold. -/
def Evaluation.verdict (e : Evaluation) : Bool × List String := (e.matched, e.matchedConditions)

namespace RuleSet

/-- The contents of the conditions by their ids. -/
def contents (s : RuleSet) : List (Nat × Content) :=
  s.conditions.map fun e => (e.1, e.2.content)

/-- Under each id both rule sets have a condition of the same content or none. Their formulas have
the same elements, and they are evaluated in the same way. -/
structure SameContent (s t : RuleSet) : Prop where
  condition : ∀ id,
    (s.condition? id).map Condition.content = (t.condition? id).map Condition.content
  elements : s.equation.elements = t.equation.elements
  options : s.options = t.options

variable {s t : RuleSet}

theorem SameContent.trans {u : RuleSet} (h : SameContent s t) (h' : SameContent t u) :
    SameContent s u :=
  ⟨fun id => (h.condition id).trans (h'.condition id), h.elements.trans h'.elements,
    h.options.trans h'.options⟩

theorem elements_repaired (s : RuleSet) : s.repaired.equation.elements = s.equation.elements := by
  unfold repaired
  split
  · exact Equation.elements_normalize _ _
  · rfl

theorem conditions_repaired (s : RuleSet) : s.repaired.conditions = s.conditions := by
  unfold repaired
  split <;> rfl

theorem options_repaired (s : RuleSet) : s.repaired.options = s.options := by
  unfold repaired
  split <;> rfl

/-- An evaluation leaves the content as it is. -/
theorem sameContent_evaluated (s : RuleSet) (record : Record) (now : Moment) :
    SameContent (s.evaluated record now) s := by
  unfold evaluated
  refine ⟨?_, ?_, ?_⟩
  · intro id
    unfold condition?
    rw [conditions_repaired]
    simp only [tested, Keyed.find?_map, Option.map_map]
    congr 1
    funext c
    exact c.content_tested _
  · rw [elements_repaired]
    rfl
  · rw [options_repaired]
    rfl

/-! ## The content decides -/

theorem maxId?_eq (s : RuleSet) : s.maxId? = s.contents.getLast?.map Prod.fst := by
  unfold maxId? contents
  rw [List.getLast?_map, Option.map_map]
  rfl

theorem outcomes_eq (s : RuleSet) (x : Context) :
    s.outcomes x = ⟨s.contents.map fun e => (e.1, (Condition.ofContent e.2).holds x)⟩ := by
  unfold outcomes contents
  rw [List.map_map]
  rfl

theorem Sound.matchedNames_eq (h : s.Sound) (x : Context) :
    s.matchedNames x = (s.contents.filter fun e => (Condition.ofContent e.2).holds x).map
      fun e => ((Condition.ofContent e.2).tested x).name := by
  unfold matchedNames contents
  rw [List.filter_map, List.map_map]
  apply List.map_congr_left
  intro e he
  obtain ⟨hmem, hx⟩ := List.mem_filter.mp he
  exact (h.goesByLabel e hmem).name_tested hx

theorem SameContent.contents_eq (h : SameContent s t) (hs : s.Sound) (ht : t.Sound) :
    s.contents = t.contents := by
  unfold contents
  refine (hs.sorted.map Condition.content).ext (ht.sorted.map Condition.content) ?_
  intro id
  rw [Keyed.find?_map, Keyed.find?_map]
  exact h.condition id

theorem SameContent.apply_eq (h : SameContent s t) (hs : s.Sound) (ht : t.Sound) (r : Outcomes) :
    s.apply r = t.apply r := by
  have hmax : s.maxId? = t.maxId? := by
    rw [maxId?_eq, maxId?_eq, h.contents_eq hs ht]
  rcases hm : s.maxId? with _ | maxId
  · unfold apply
    rw [← hmax, hm]
  · rw [hs.apply_eq hm, ht.apply_eq (hmax ▸ hm), h.elements]

/-! ## Evaluation -/

/-- Evaluates records one after another, each time on the rule set that the evaluation before
left. -/
def evaluateAll (now : Moment) : RuleSet → List Record → List Evaluation
  | _, [] => []
  | s, record :: rest => s.evaluate record now :: evaluateAll now (s.evaluated record now) rest

theorem SameContent.verdict_eq (h : SameContent s t) (hs : s.Sound) (ht : t.Sound)
    (record : Record) (now : Moment) :
    (s.evaluate record now).verdict = (t.evaluate record now).verdict := by
  have hx : s.context record now = t.context record now := by
    unfold context
    rw [h.options]
  have hcontents := h.contents_eq hs ht
  unfold evaluate Evaluation.verdict
  simp only [Prod.mk.injEq]
  refine ⟨?_, ?_⟩
  · rw [h.apply_eq hs ht, outcomes_eq, outcomes_eq, hx, hcontents]
  · rw [hs.matchedNames_eq, ht.matchedNames_eq, hx, hcontents]

/-- Rule sets that hold the same give the same verdict on every record, and list the same
conditions, however each of them came about. So records that are evaluated one after another get
what a fresh rule set gives to each of them. -/
theorem the_history_does_not_count (hs : s.Reachable) (ht : t.Reachable) (h : SameContent s t)
    (now : Moment) :
    (∀ record, (s.evaluate record now).verdict = (t.evaluate record now).verdict) ∧
      ∀ records, (evaluateAll now s records).map Evaluation.verdict =
        records.map fun record => (t.evaluate record now).verdict := by
  refine ⟨fun record => h.verdict_eq hs.sound ht.sound record now, ?_⟩
  intro records
  induction records generalizing s with
  | nil => rfl
  | cons record rest ih =>
    have hnext : SameContent (s.evaluated record now) t :=
      (sameContent_evaluated s record now).trans h
    unfold evaluateAll
    rw [List.map_cons, List.map_cons, h.verdict_eq hs.sound ht.sound,
      ih (hs.evaluated record now) hnext]

/-- A rule set that copied a name and keeps a repair gives what it gave when it was fresh. -/
theorem a_copied_name_does_not_count :
    let copy := Condition.ofOperands 0 (.field "name") .copy (.literal .string "")
    let now := Moment.midnight ⟨2024, 2, 29, by decide⟩
    let t := ((new "names").setElements [.op .not, .ref 1]).add 0 copy
    let s := t.evaluated (.fields [("name", "Ann")]) now
    s.Reachable ∧ t.Reachable ∧ SameContent s t ∧
      (evaluateAll now s [.fields [("name", "Bob")], .fields []]).map Evaluation.verdict =
        [(t.evaluate (.fields [("name", "Bob")]) now).verdict,
          (t.evaluate (.fields []) now).verdict] := by
  intro copy now t s
  have ht : t.Reachable := ((Reachable.new "names").setElements _).add 0 (.ofOperands ..)
  have hs : s.Reachable := ht.evaluated _ now
  have h : SameContent s t := sameContent_evaluated t _ now
  exact ⟨hs, ht, h, (the_history_does_not_count hs ht h now).2 _⟩

end RuleSet

end Verdict
