-- The form of a record does not count. An evaluation reads its record only through
-- the fields that the values of the conditions name, and all forms of a record
-- give the same texts for them.
import Mathlib.Data.List.Basic
import Verdict.Proofs.Record
import Verdict.RuleSet.Evaluation

namespace Verdict

/-! ## The fields that are read -/

/-- The names of the fields in a value. -/
def ValueNode.fieldNames : ValueNode → List String
  | .literal _ _ => []
  | .field name => [name]
  | .compound _ _ left right => left.fieldNames ++ right.fieldNames

/-- A disabled condition reads no field. -/
def Condition.fieldNames (c : Condition) : List String :=
  match c.operands with
  | none => []
  | some (left, right) => left.fieldNames ++ right.fieldNames

def RuleSet.fieldNames (s : RuleSet) : List String := s.conditions.flatMap fun e => e.2.fieldNames

/-- Two contexts that differ in their records at most. Both records give the same texts for the
names. -/
structure Context.AgreeOn (names : List String) (x y : Context) : Prop where
  now_eq : x.now = y.now
  places_eq : x.places = y.places
  field?_eq : ∀ name ∈ names, x.record.field? name = y.record.field? name

namespace Context.AgreeOn

variable {names : List String} {x y : Context}

theorem mono {fewer : List String} (h : AgreeOn names x y) (hsub : fewer ⊆ names) :
    AgreeOn fewer x y :=
  ⟨h.now_eq, h.places_eq, fun name hname => h.field?_eq name (hsub hname)⟩

/-! ## Values -/

theorem value_eq {node : ValueNode} (h : AgreeOn node.fieldNames x y) :
    node.value x = node.value y := by
  induction node with
  | literal kind text => rw [ValueNode.value, ValueNode.value, h.now_eq]
  | field name =>
    have hfield : x.record.field? name = y.record.field? name :=
      h.field?_eq name (List.mem_singleton_self name)
    simp only [ValueNode.value, ValueNode.fieldValue, hfield]
  | compound kind op left right ihl ihr =>
    have hleft := ihl (h.mono (List.subset_append_left _ _))
    have hright := ihr (h.mono (List.subset_append_right _ _))
    simp only [ValueNode.value, hleft, hright, h.places_eq]

theorem resolve_eq {node : ValueNode} (h : AgreeOn node.fieldNames x y) :
    node.resolve x = node.resolve y := by
  unfold ValueNode.resolve
  rw [h.value_eq]

theorem resolveReports_eq {node : ValueNode} (h : AgreeOn node.fieldNames x y) :
    node.resolveReports x = node.resolveReports y := by
  unfold ValueNode.resolveReports
  rw [h.value_eq]

/-! ## Conditions -/

variable {c : Condition}

/-- The two values of a condition are found alike. -/
theorem operands {left right : ValueNode} (h : AgreeOn c.fieldNames x y)
    (hc : c.operands = some (left, right)) :
    AgreeOn left.fieldNames x y ∧ AgreeOn right.fieldNames x y := by
  have hnames : c.fieldNames = left.fieldNames ++ right.fieldNames := by
    unfold Condition.fieldNames
    rw [hc]
  rw [hnames] at h
  exact ⟨h.mono (List.subset_append_left _ _), h.mono (List.subset_append_right _ _)⟩

theorem outcome_eq (h : AgreeOn c.fieldNames x y) : c.outcome x = c.outcome y := by
  unfold Condition.outcome
  rcases hc : c.operands with _ | ⟨left, right⟩
  · rfl
  · obtain ⟨hleft, hright⟩ := h.operands hc
    simp only [hleft.resolve_eq, hright.resolve_eq]

theorem holds_eq (h : AgreeOn c.fieldNames x y) : c.holds x = c.holds y := by
  unfold Condition.holds
  rw [h.outcome_eq]

theorem tested_eq (h : AgreeOn c.fieldNames x y) : c.tested x = c.tested y := by
  unfold Condition.tested
  rcases hc : c.operands with _ | ⟨left, right⟩
  · rfl
  · simp only [(h.operands hc).1.resolve_eq]

theorem reports_eq (h : AgreeOn c.fieldNames x y) : c.reports x = c.reports y := by
  unfold Condition.reports
  rw [h.outcome_eq]
  rcases hc : c.operands with _ | ⟨left, right⟩
  · rfl
  · obtain ⟨hleft, hright⟩ := h.operands hc
    simp only [hleft.resolveReports_eq, hright.resolveReports_eq]

end Context.AgreeOn

/-! ## Rule sets -/

namespace RuleSet

variable {s : RuleSet} {r r' : Record}

/-- Both records give the same texts for all fields that the rule set reads. -/
def ReadsAlike (s : RuleSet) (r r' : Record) : Prop :=
  ∀ name ∈ s.fieldNames, r.field? name = r'.field? name

theorem ReadsAlike.agreeOn (h : s.ReadsAlike r r') (now : Moment) {e : Nat × Condition}
    (he : e ∈ s.conditions) :
    Context.AgreeOn e.2.fieldNames (s.context r now) (s.context r' now) :=
  ⟨rfl, rfl, fun name hname => h name (List.mem_flatMap.mpr ⟨e, he, hname⟩)⟩

theorem ReadsAlike.outcomes_eq (h : s.ReadsAlike r r') (now : Moment) :
    s.outcomes (s.context r now) = s.outcomes (s.context r' now) := by
  unfold outcomes
  rw [List.map_congr_left fun e he => by rw [(h.agreeOn now he).holds_eq]]

theorem ReadsAlike.tested_eq (h : s.ReadsAlike r r') (now : Moment) :
    s.tested (s.context r now) = s.tested (s.context r' now) := by
  unfold tested
  rw [List.map_congr_left fun e he => by rw [(h.agreeOn now he).tested_eq]]

theorem ReadsAlike.matchedNames_eq (h : s.ReadsAlike r r') (now : Moment) :
    s.matchedNames (s.context r now) = s.matchedNames (s.context r' now) := by
  unfold matchedNames
  rw [List.filter_congr fun e he => (h.agreeOn now he).holds_eq]
  refine List.map_congr_left fun e he => ?_
  rw [(h.agreeOn now (List.mem_filter.mp he).1).tested_eq]

theorem ReadsAlike.lines_eq (h : s.ReadsAlike r r') (now : Moment) :
    s.conditions.map (fun e => conditionLine (s.context r now) e.1 e.2) =
      s.conditions.map fun e => conditionLine (s.context r' now) e.1 e.2 := by
  refine List.map_congr_left fun e he => ?_
  unfold conditionLine outcomeWord
  rw [(h.agreeOn now he).holds_eq]

theorem ReadsAlike.evaluated_eq (h : s.ReadsAlike r r') (now : Moment) :
    s.evaluated r now = s.evaluated r' now := congrArg repaired (h.tested_eq now)

/-- An evaluation depends on the texts of the fields only. -/
theorem ReadsAlike.evaluate_eq (h : s.ReadsAlike r r') (now : Moment) :
    s.evaluate r now = s.evaluate r' now := by
  simp only [evaluate, h.outcomes_eq now, h.matchedNames_eq now, h.lines_eq now,
    h.evaluated_eq now]

theorem ReadsAlike.evaluateReports_eq (h : s.ReadsAlike r r') (now : Moment) :
    s.evaluateReports r now = s.evaluateReports r' now := by
  have hreports : s.conditions.flatMap (fun e => e.2.reports (s.context r now)) =
      s.conditions.flatMap fun e => e.2.reports (s.context r' now) :=
    List.flatMap_congr fun e he => (h.agreeOn now he).reports_eq
  simp only [evaluateReports, h.outcomes_eq now, hreports]

/-- If all headers of some cells are different names without a point, and each field that the rule
set reads is named exactly as a header or as none of them, then a row, a map and a flat object of
these cells are evaluated alike: the verdict, the names, the trace and the diagnostics are the same,
and so is what the rule set is afterwards. -/
theorem the_form_of_a_record_does_not_count {cells : List (String × String)}
    (hcells : Record.PlainCells cells) (s : RuleSet)
    (hnames : ∀ name ∈ s.fieldNames, Record.IsPlainName cells name) {r r' : Record}
    (hr : Record.IsFormOf cells r) (hr' : Record.IsFormOf cells r') (now : Moment) :
    s.evaluate r now = s.evaluate r' now ∧
      s.deliver (s.evaluateReports r now) = s.deliver (s.evaluateReports r' now) ∧
      s.evaluated r now = s.evaluated r' now := by
  have h : s.ReadsAlike r r' := fun name hname =>
    (Record.field?_of_form hr hcells (hnames name hname)).trans
      (Record.field?_of_form hr' hcells (hnames name hname)).symm
  exact ⟨h.evaluate_eq now, congrArg s.deliver (h.evaluateReports_eq now), h.evaluated_eq now⟩

/-- A stock is found in a row, in a map and in an object, and a discount in none of them. -/
theorem a_stock_is_found_in_every_form :
    let cells := [("SKU", "A-100"), ("Stock", "5")]
    let low := Condition.ofOperands 0 (.field "Stock") .lt (.literal .int "10")
    let reduced := Condition.ofOperands 1 (.field "Discount") .ne (.literal .string "none")
    let now := Moment.midnight ⟨2024, 2, 29, by decide⟩
    let s := ((new "stock").add 0 low).add 1 reduced
    Record.PlainCells cells ∧ (∀ name ∈ s.fieldNames, Record.IsPlainName cells name) ∧
      s.evaluate (.ofCells cells) now =
        s.evaluate (.fields [("Stock", "5"), ("SKU", "A-100")]) now ∧
      s.evaluate (.ofCells cells) now = s.evaluate (.document (.ofTexts cells)) now ∧
      (s.evaluate (.ofCells cells) now).matchedConditions ≠ [] := by
  intro cells low reduced now s
  have hcells : Record.PlainCells cells := ⟨by decide +kernel, by decide +kernel⟩
  have hnames : ∀ name ∈ s.fieldNames, Record.IsPlainName cells name := by
    intro name hname
    have hfields : s.fieldNames = ["Stock", "Discount"] := by decide +kernel
    rw [hfields, List.mem_cons, List.mem_singleton] at hname
    rcases hname with rfl | rfl
    · exact Or.inl ⟨("Stock", "5"), by decide, rfl⟩
    · exact Or.inr (by decide +kernel)
  have hmap := the_form_of_a_record_does_not_count hcells s hnames .row
    (.map (List.Perm.swap ("SKU", "A-100") ("Stock", "5") [])) now
  have hobject := the_form_of_a_record_does_not_count hcells s hnames .row .object now
  exact ⟨hcells, hnames, hmap.1, hobject.1, by decide +kernel⟩

end RuleSet

end Verdict
