-- Definitions that can be written. Whether a definition makes sense or not, it is
-- read from its own text if its values are texts, its ids are numbers that ids may
-- be, and its compounds are not nested too deeply.
import Verdict.Proofs.Definition.RoundTrip

namespace Verdict

open Json Json.Document

/-! ## What fits -/

/-- The id is a text, or a number that an id may be. -/
def ConditionId.Fits (id : ConditionId) : Prop := ∀ n, id = .index n → n ≤ Text.maxIndex

def TokenDefinition.Fits (t : TokenDefinition) : Prop := ∀ id, t.value = some id → id.Fits

/-- The values are texts, and there are at most so many levels of nesting. -/
inductive NodeDefinition.Fits : Nat → NodeDefinition → Prop
  | node {depth : Nat} {kind text operator : Option String} {left right : Option NodeDefinition} :
      (∀ d, left = some d → Fits depth d) → (∀ d, right = some d → Fits depth d) →
      Fits (depth + 1) ⟨kind, text.map .str, operator, left, right⟩

structure ConditionDefinition.Fits (depth : Nat) (c : ConditionDefinition) : Prop where
  id : c.id.Fits
  left : ∀ d, c.left = some d → d.Fits depth
  right : ∀ d, c.right = some d → d.Fits depth

def EquationDefinition.Fits (q : EquationDefinition) : Prop :=
  ∀ items, q = .tokens items → ∀ t ∈ items, t.Fits

/-- The levels that are left for the values in the conditions of a rule set. -/
def valueDepth : Nat := maxDepth - 3

structure RuleSetDefinition.Fits (d : RuleSetDefinition) : Prop where
  conditions : ∀ c ∈ d.conditions, c.Fits valueDepth
  equation : d.equation.Fits

/-! ## Nothing is rounded -/

theorem NodeDefinition.Fits.exact {depth : Nat} {d : NodeDefinition} (h : d.Fits depth) :
    Exact d.json := by
  induction h with
  | @node depth kind text operator left right _ _ ihl ihr =>
    have htext : Exact (ofOption id (text.map .str)) := by
      cases text <;> simp
    simp only [json_eq, exact_obj_cons, exact_obj_nil, and_true]
    exact ⟨by simp, htext, by simp, exact_ofOption.mpr ihl, exact_ofOption.mpr ihr⟩

theorem ConditionDefinition.Fits.exact {depth : Nat} {c : ConditionDefinition}
    (h : c.Fits depth) : Exact c.json := by
  obtain ⟨id, comparator, left, right⟩ := c
  simp only [json_eq, exact_obj_cons, exact_obj_nil, and_true]
  exact ⟨id.exact_json, exact_str comparator, exact_ofOption.mpr fun d hd => (h.left d hd).exact,
    exact_ofOption.mpr fun d hd => (h.right d hd).exact⟩

theorem TokenDefinition.exact_json (t : TokenDefinition) : Exact t.json := by
  simp [json, ConditionId.exact_json]

theorem EquationDefinition.exact_json (q : EquationDefinition) : Exact q.json := by
  cases q with
  | formula text => simp [json]
  | tokens items => simp [json, exact_arr, TokenDefinition.exact_json]

theorem RuleSetDefinition.Fits.exact {d : RuleSetDefinition} (h : d.Fits) : Exact d.json := by
  have hconditions : Exact (.arr (d.conditions.map ConditionDefinition.json)) := by
    apply exact_arr.mpr
    intro j hj
    obtain ⟨c, hc, rfl⟩ := List.mem_map.mp hj
    exact (h.conditions c hc).exact
  simp only [json, exact_obj_cons, exact_obj_nil, and_true]
  exact ⟨by simp, by simp, hconditions, d.equation.exact_json⟩

/-! ## What is written is read -/

theorem TokenDefinition.Fits.ofDocument?_json {t : TokenDefinition} (h : t.Fits) {depth : Nat}
    (hdepth : depth ≠ 0) : ofDocument? depth t.json.document = some t := by
  apply TokenDefinition.ofDocument?_json hdepth
  exact optional?_document (fun id _ => id.json_ne_null) fun id hid =>
    ConditionId.ofDocument?_json (h id hid) (depth - 1)

/-- By induction on the nesting. -/
theorem NodeDefinition.Fits.ofDocument?_json {depth : Nat} {d : NodeDefinition}
    (h : d.Fits depth) : ofDocument? depth d.json.document = some d := by
  induction h with
  | @node depth kind text operator left right _ _ ihl ihr =>
    apply NodeDefinition.ofDocument?_json
    · cases text <;> rfl
    · exact optional?_document (fun d _ => d.json_ne_null) ihl
    · exact optional?_document (fun d _ => d.json_ne_null) ihr

theorem ConditionDefinition.Fits.ofDocument?_json {depth : Nat} {c : ConditionDefinition}
    (h : c.Fits depth) : ofDocument? (depth + 1) c.json.document = some c := by
  apply ConditionDefinition.ofDocument?_json (Nat.succ_ne_zero depth)
  · exact ConditionId.ofDocument?_json h.id _
  · exact optional?_document (fun d _ => d.json_ne_null) fun d hd => (h.left d hd).ofDocument?_json
  · exact optional?_document (fun d _ => d.json_ne_null) fun d hd => (h.right d hd).ofDocument?_json

theorem EquationDefinition.Fits.ofDocument?_json {q : EquationDefinition} (h : q.Fits)
    {depth : Nat} (hdepth : 3 ≤ depth) : ofDocument? depth q.json.document = some q := by
  cases q with
  | formula text => exact ofDocument?_formula (by omega) text
  | tokens items =>
    apply ofDocument?_tokens (by omega)
    exact mapM_documents fun t ht => (h items rfl t ht).ofDocument?_json (by omega)

/-- A definition that fits is read from its own text. -/
theorem RuleSetDefinition.Fits.ofText?_text {d : RuleSetDefinition} (h : d.Fits) :
    ofText? d.json.text = some d := by
  unfold ofText?
  rw [Json.ofText?_text h.exact]
  apply RuleSetDefinition.ofDocument?_json (by decide)
  · apply conditions?_document (by decide)
    exact mapM_documents fun c hc => (h.conditions c hc).ofDocument?_json
  · exact h.equation.ofDocument?_json (by decide)

end Verdict
