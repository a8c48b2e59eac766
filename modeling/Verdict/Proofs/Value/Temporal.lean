-- Operations on dates and durations. A result is kept as its text, and an
-- operation on a result works on what that text stands for.
import Verdict.Proofs.Calendar.Moves
import Verdict.Proofs.Value.Kinds

namespace Verdict

/-- A moment without a fraction of a second is read as it is. -/
theorem Calendar.ofText?_whole {m : Moment} (hm : m.nano = 0) : ofText? m.text = some m := by
  obtain ⟨date, second, nano, hvalid⟩ := m
  cases hm
  rw [ofText?_text, Moment.shown_eq (Or.inl (Moment.isLeapSecond_eq_false rfl))]
  unfold Moment.wholeSecond
  simp only [Nat.zero_div, Nat.zero_mul]

namespace ValueNode

variable {c : Context} {left right : ValueNode} {kind : Kind} {op : ArithmeticOp}
  {v w : TypedValue} {negate : Bool} {m n : Moment} {s t : Span}

/-! ## Operands -/

theorem temporal?_date {text : String} (h : Calendar.ofText? text = some m) :
    temporal? (.present text .date) = some (.date m) := by
  unfold temporal? TypedValue.present
  simp only [Option.bind_some, h, Option.map_some]

theorem temporal?_duration {text : String} (h : Span.ofText? text = some s) :
    temporal? (.present text .duration) = some (.span s) := by
  unfold temporal? TypedValue.present
  simp only [Option.bind_some, h, Option.map_some]

theorem value_of_temporal? {node : ValueNode} {operand : Temporal}
    (h : temporal? (node.resolve c) = some operand) : node.value c = .ok (node.resolve c) := by
  unfold temporal? at h
  obtain ⟨text, htext, -⟩ := Option.bind_eq_some_iff.mp h
  exact value_of_resolve htext

/-! ## Operations -/

theorem subtracts_inversion (h : subtracts op = .ok negate) :
    (op = .plus ∧ negate = false) ∨ (op = .minus ∧ negate = true) := by
  cases op with
  | plus =>
    cases h
    exact Or.inl ⟨rfl, rfl⟩
  | minus =>
    cases h
    exact Or.inr ⟨rfl, rfl⟩
  | first | times | dividedBy => cases h

theorem temporalValue_dates (hv : temporal? v = some (.date m))
    (hw : temporal? w = some (.date n)) :
    temporalValue v .minus w = .ok (.present (Span.between m n).text .duration) := by
  unfold temporalValue
  rw [hv, hw]
  rfl

theorem temporalValue_spans (hop : subtracts op = .ok negate) (hv : temporal? v = some (.span s))
    (hw : temporal? w = some (.span t)) :
    (temporalValue v op w).toOption =
      (s.combine? t negate).map fun sum => .present sum.text .duration := by
  unfold temporalValue
  rw [hop, hv, hw]
  simp only [bind, Except.bind]
  cases s.combine? t negate <;> rfl

theorem temporalValue_move (hop : subtracts op = .ok negate) (hv : temporal? v = some (.date m))
    (hw : temporal? w = some (.span s)) :
    (temporalValue v op w).toOption =
      (m.moved? s negate).map fun moved => .present moved.text .date := by
  have hminus : op = .minus ↔ negate = true := by
    rcases subtracts_inversion hop with ⟨rfl, rfl⟩ | ⟨rfl, rfl⟩ <;> decide
  unfold temporalValue shifted Moment.moved?
  rw [hop, hv, hw]
  simp only [bind, Except.bind, hminus]
  rcases s.seconds? with _ | seconds
  · rfl
  · simp only [Option.bind]
    cases m.shift? (if negate = true then -seconds else seconds) <;> rfl

/-! ## Results -/

section
variable (hkind : kind.isTemporal = true)
include hkind

theorem resolve_compound (hop : op ≠ .first) (hleft : left.value c = .ok v)
    (hright : right.value c = .ok w) :
    (compound kind op left right).resolve c =
      (temporalValue v op w).toOption.getD (.absent kind) := by
  have hfallback : (compound kind op left right).fallbackKind = kind := by
    cases kind <;> first | rfl | cases hkind
  unfold resolve
  rw [value, hleft, hright, hfallback]
  simp only [bind, Except.bind, hkind, hop, if_true, if_false]
  cases temporalValue v op w <;> rfl

/-- A date less a date is a duration. -/
theorem resolve_difference (hleft : temporal? (left.resolve c) = some (.date m))
    (hright : temporal? (right.resolve c) = some (.date n)) :
    (compound kind .minus left right).resolve c =
      .present (Span.between m n).text .duration := by
  rw [resolve_compound hkind (by decide) (value_of_temporal? hleft) (value_of_temporal? hright),
    temporalValue_dates hleft hright]
  rfl

/-- A duration with a duration is a duration, if values can hold it. -/
theorem resolve_sum (hop : subtracts op = .ok negate)
    (hleft : temporal? (left.resolve c) = some (.span s))
    (hright : temporal? (right.resolve c) = some (.span t)) :
    (compound kind op left right).resolve c =
      ((s.combine? t negate).map fun sum => .present sum.text .duration).getD (.absent kind) := by
  have hfirst : op ≠ .first := by rintro rfl; cases hop
  rw [resolve_compound hkind hfirst (value_of_temporal? hleft) (value_of_temporal? hright),
    temporalValue_spans hop hleft hright]

/-- A date with a duration is a date, if the calendar has it. -/
theorem resolve_move (hop : subtracts op = .ok negate)
    (hleft : temporal? (left.resolve c) = some (.date m))
    (hright : temporal? (right.resolve c) = some (.span s)) :
    (compound kind op left right).resolve c =
      ((m.moved? s negate).map fun moved => .present moved.text .date).getD (.absent kind) := by
  have hfirst : op ≠ .first := by rintro rfl; cases hop
  rw [resolve_compound hkind hfirst (value_of_temporal? hleft) (value_of_temporal? hright),
    temporalValue_move hop hleft hright]

end

end ValueNode

end Verdict
