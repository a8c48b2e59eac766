-- The reports of values. A value that cannot be resolved is absent and reported
-- once, wherever in it the failure is. Only a field that the record does not have
-- is absent without a report, and the dates and durations that take it over.
import Verdict.Proofs.Value.Surroundings

namespace Verdict

namespace ValueNode

variable {c : Context} {node left right : ValueNode} {kind : Kind} {op : ArithmeticOp}
  {v : TypedValue} {fault : Fault}

/-! ## Missing fields -/

/-- The value that a value is taken over from. A date or a duration without an operator takes over
its first child. -/
def origin : ValueNode → ValueNode
  | literal kind text => literal kind text
  | field name => field name
  | compound kind op left right =>
    if kind.isTemporal = true ∧ op = .first then left.origin else compound kind op left right

/-- The value is taken over from a field that the record does not have. -/
def IsMissing (c : Context) (node : ValueNode) : Prop :=
  ∃ name, node.origin = field name ∧ c.record.field? name = none

theorem found?_origin (c : Context) (node : ValueNode) : node.origin.found? c = node.found? c := by
  induction node with
  | literal kind text => rfl
  | field name => rfl
  | compound kind op left right ihl ihr =>
    rw [origin]
    split
    · rename_i hfirst
      rw [ihl, found?_compound]
      unfold combined?
      simp only [hfirst.1, hfirst.2, if_true, Option.bind_eq_bind]
      cases left.found? c <;> rfl
    · rfl

theorem found?_of_isMissing (h : node.IsMissing c) : node.found? c = some (.absent .string) := by
  obtain ⟨name, horigin, hfield⟩ := h
  rw [← found?_origin, horigin, found?, value, fieldValue, hfield]
  rfl

/-- The result of an operation has a text. -/
theorem isSome_of_compound (h : (compound kind op left right).value c = .ok v)
    (hop : ¬ (kind.isTemporal = true ∧ op = .first)) : v.value.isSome = true := by
  by_cases hkind : kind.isTemporal = true
  · rw [value] at h
    obtain ⟨first, -, h⟩ := exists_of_bind_eq_ok h
    rw [if_pos hkind, if_neg fun hfirst => hop ⟨hkind, hfirst⟩] at h
    obtain ⟨second, -, h⟩ := exists_of_bind_eq_ok h
    rcases temporalValue_inversion h with ⟨m, rfl⟩ | ⟨s, -, rfl⟩
    · rfl
    · rfl
  · obtain ⟨x, -, rfl⟩ := numeric_inversion (by simpa using hkind) h
    rfl

/-- By induction along the first children: nothing but a missing field is found without a text. -/
theorem isMissing_of_value (h : node.value c = .ok v) (hv : v.value = none) :
    node.IsMissing c := by
  induction node with
  | literal kind text =>
    rw [value] at h
    unfold literalValue at h
    split at h
    · cases h
      cases hv
    split at h
    · cases h
      cases hv
    · cases h
  | field name =>
    rw [value] at h
    cases h
    unfold fieldValue at hv
    split at hv
    · cases hv
    · exact ⟨name, rfl, ‹_›⟩
  | compound kind op left right ihl ihr =>
    by_cases hop : kind.isTemporal = true ∧ op = .first
    · rw [value] at h
      obtain ⟨first, hfirst, h⟩ := exists_of_bind_eq_ok h
      rw [if_pos hop.1, if_pos hop.2] at h
      cases h
      obtain ⟨name, horigin, hfield⟩ := ihl hfirst
      exact ⟨name, by rw [origin, if_pos hop, horigin], hfield⟩
    · have hsome := isSome_of_compound h hop
      rw [hv] at hsome
      cases hsome

/-! ## Faults -/

theorem exists_of_bind_eq_error {α β : Type} {r : Except Fault α} {f : α → Except Fault β}
    (h : r >>= f = .error fault) : r = .error fault ∨ ∃ a, r = .ok a ∧ f a = .error fault := by
  cases r with
  | error other =>
    cases h
    exact Or.inl rfl
  | ok a => exact Or.inr ⟨a, rfl, h⟩

theorem kind_of_number (h : number node v = .error fault) : fault.kind = .resolution := by
  unfold number at h
  split at h
  · cases h
    rfl
  · split at h
    · cases h
    · cases h
      rfl

theorem kind_of_temporalValue {w : TypedValue} (h : temporalValue v op w = .error fault) :
    fault.kind = .resolution := by
  unfold temporalValue at h
  rcases exists_of_bind_eq_error h with h | ⟨negate, -, h⟩
  · cases op <;> cases h <;> rfl
  simp only at h
  split at h
  · split at h
    · cases h
    · cases h
      rfl
  · split at h
    · cases h
    · cases h
      rfl
  · split at h
    · unfold shifted at h
      split at h
      · cases h
      · cases h
        rfl
    · cases h
      rfl
  · cases h
    rfl

/-- All faults of values are of one group. -/
theorem kind_of_value (h : node.value c = .error fault) : fault.kind = .resolution := by
  induction node with
  | literal kind text =>
    rw [value] at h
    unfold literalValue at h
    split at h
    · cases h
    split at h
    · cases h
    · cases h
      rfl
  | field name =>
    rw [value] at h
    cases h
  | compound kind op left right ihl ihr =>
    rw [value] at h
    rcases exists_of_bind_eq_error h with h | ⟨first, -, h⟩
    · exact ihl h
    split at h
    · split at h
      · cases h
      · rcases exists_of_bind_eq_error h with h | ⟨second, -, h⟩
        · exact ihr h
        · exact kind_of_temporalValue h
    · rcases exists_of_bind_eq_error h with h | ⟨a, -, h⟩
      · exact kind_of_number h
      rcases exists_of_bind_eq_error h with h | ⟨second, -, h⟩
      · exact ihr h
      rcases exists_of_bind_eq_error h with h | ⟨b, -, h⟩
      · exact kind_of_number h
      split at h
      · cases h
      · cases h
        rfl

/-! ## Reports -/

theorem resolveReports_of_found (h : node.found? c = some v) : node.resolveReports c = [] := by
  unfold found? at h
  unfold resolveReports
  cases hvalue : node.value c with
  | ok w => rfl
  | error fault =>
    rw [hvalue] at h
    cases h

theorem resolveReports_of_not_found (h : node.found? c = none) :
    ∃ fault : Fault, fault.kind = .resolution ∧
      node.resolveReports c = [.error fault.message node.text] := by
  unfold found? at h
  unfold resolveReports
  cases hvalue : node.value c with
  | ok w =>
    rw [hvalue] at h
    cases h
  | error fault => exact ⟨fault, kind_of_value hvalue, rfl⟩

/-- Nothing is found for a value that is absent without being taken over from a missing field. -/
theorem found?_eq_none (h : (node.resolve c).isAbsent = true) (hmissing : ¬ node.IsMissing c) :
    node.found? c = none := by
  rw [isAbsent_resolve_iff] at h
  cases hvalue : node.value c with
  | error fault =>
    rw [found?, hvalue]
    rfl
  | ok v =>
    rw [found?, hvalue] at h
    exact absurd (isMissing_of_value hvalue h) hmissing

/-- A value is reported once or not at all, with its own text. It is reported if it is absent, and
then its kind is the one that the rule gives it; but a missing field is absent as a text without a
report, and so is what is taken over from it. No operation makes up for a failure of an operand
that it looks at, at any depth. -/
theorem a_failure_is_reported_once (c : Context) (node : ValueNode) :
    (node.resolveReports c = [] ∨ ∃ message, node.resolveReports c = [.error message node.text]) ∧
    ((node.resolve c).isAbsent = false → node.resolveReports c = []) ∧
    (node.IsMissing c → node.resolve c = .absent .string ∧ node.resolveReports c = []) ∧
    ((node.resolve c).isAbsent = true → ¬ node.IsMissing c →
      node.resolve c = .absent (if node.kind = .field then .string else node.kind) ∧
        ∃ fault : Fault, fault.kind = .resolution ∧
          node.resolveReports c = [.error fault.message node.text]) ∧
    ∀ (s : Surroundings) (part : ValueNode), node = s.fill part → s.IsUsed →
      (part.resolve c).isAbsent = true → (node.resolve c).isAbsent = true := by
  refine ⟨?_, fun h => ?_, fun h => ?_, fun h hmissing => ?_, ?_⟩
  · rcases hfound : node.found? c with _ | v
    · obtain ⟨fault, -, hreports⟩ := resolveReports_of_not_found hfound
      exact Or.inr ⟨fault.message, hreports⟩
    · exact Or.inl (resolveReports_of_found hfound)
  · rcases hfound : node.found? c with _ | v
    · rw [isAbsent_resolve_iff.mpr (by rw [hfound]; rfl)] at h
      cases h
    · exact resolveReports_of_found hfound
  · have hfound := found?_of_isMissing h
    exact ⟨by rw [resolve_eq, hfound]; rfl, resolveReports_of_found hfound⟩
  · have hfound := found?_eq_none h hmissing
    exact ⟨by rw [resolve_eq, hfound]; rfl, resolveReports_of_not_found hfound⟩
  · rintro s part rfl hs hpart
    exact s.isAbsent_fill hs hpart

/-- A duration that is taken over from a missing field is absent in silence. A sum with it is absent
too, and reported. -/
theorem a_sum_with_a_missing_field_is_reported :
    let due := compound .duration .first (field "due") (literal .int "none")
    let sum := compound .float .plus (literal .int "1") due
    due.resolve emptyContext = .absent .string ∧ due.resolveReports emptyContext = [] ∧
      sum.resolve emptyContext = .absent .float ∧
      ∃ fault : Fault, sum.resolveReports emptyContext = [.error fault.message "(1 + due)"] := by
  intro due sum
  obtain ⟨-, -, hsilent, -, -⟩ := a_failure_is_reported_once emptyContext due
  obtain ⟨-, -, -, hreported, hused⟩ := a_failure_is_reported_once emptyContext sum
  have hdue := hsilent ⟨"due", rfl, rfl⟩
  have hsum : (sum.resolve emptyContext).isAbsent = true := by
    refine hused (.rightOf .float .plus (literal .int "1") .whole) due rfl ⟨by decide, trivial⟩ ?_
    rw [hdue.1]
    rfl
  have hmissing : ¬ sum.IsMissing emptyContext := by
    rintro ⟨name, horigin, -⟩
    cases horigin
  obtain ⟨hresolve, fault, -, hreports⟩ := hreported hsum hmissing
  exact ⟨hdue.1, hdue.2, hresolve, fault, hreports⟩

end ValueNode

end Verdict
