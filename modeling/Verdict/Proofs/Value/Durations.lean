-- The laws of durations. Their sums and differences are exact to the minute, and
-- they are there unless minutes are too many; only the least duration cannot be
-- taken away from another one.
import Verdict.Proofs.Value.Temporal

namespace Verdict

namespace ValueNode

/-- A sum or a difference of durations that is found is in the finer of their units and drops
nothing of the exact minutes. The order of a sum does not matter, not even for whether it is
found. -/
theorem sums_of_durations_are_exact {c : Context} {x y : ValueNode} {a b : Span} {k : Kind}
    (hk : k.isTemporal = true) (hx : temporal? (x.resolve c) = some (.span a))
    (hy : temporal? (y.resolve c) = some (.span b)) :
    (∀ op, op = .plus ∨ op = .minus → ((compound k op x y).resolve c).isAbsent = false →
      ∃ (s : Span) (m n : Int), (compound k op x y).resolve c = .present s.text .duration ∧
        Span.ofText? s.text = some s ∧ s.unit = a.unit.finer b.unit ∧
        s.unit.size = min a.unit.size b.unit.size ∧
        a.totalMinutes? = some m ∧ b.totalMinutes? = some n ∧
        s.totalMinutes? = some (if op = .minus then m - n else m + n)) ∧
    (compound k .plus x y).resolve c = (compound k .plus y x).resolve c := by
  constructor
  · intro op hop hfound
    have hsubtracts : subtracts op = .ok (decide (op = .minus)) := by
      rcases hop with rfl | rfl <;> rfl
    have hresolve := resolve_sum hk hsubtracts hx hy
    rcases hsum : a.combine? b (decide (op = .minus)) with _ | s
    · rw [hresolve, hsum] at hfound
      cases hfound
    · rw [hsum] at hresolve
      have htotal := Span.totalMinutes?_combine? hsum
      obtain ⟨ha, hb, -, -, hs⟩ := Span.combine?_eq_some_iff.mp hsum
      have hunit : s.unit = a.unit.finer b.unit := by rw [hs]; rfl
      refine ⟨s, a.minutes, b.minutes, hresolve, Span.ofText?_text (Span.inInt64_combine? hsum),
        hunit, by rw [hunit, SpanUnit.size_finer], Span.totalMinutes?_eq_some_iff.mpr ⟨ha, rfl⟩,
        Span.totalMinutes?_eq_some_iff.mpr ⟨hb, rfl⟩, ?_⟩
      simpa only [Span.sumMinutes, decide_eq_true_iff] using htotal
  · rw [resolve_sum hk rfl hx hy, resolve_sum hk rfl hy hx, Span.combine?_comm]

/-- Ninety minutes less than three days back. -/
theorem a_difference_of_days_and_minutes :
    let x := literal .duration "-3 Days"
    let y := literal .duration "90 min"
    (∃ s : Span, (compound .duration .minus x y).resolve emptyContext = .present s.text .duration ∧
      s.unit = .minutes ∧ s.totalMinutes? = some (-4410)) ∧
    (compound .duration .plus x y).resolve emptyContext =
      (compound .duration .plus y x).resolve emptyContext := by
  intro x y
  have hx : temporal? (x.resolve emptyContext) = some (.span ⟨-3, .days⟩) := by
    rw [show x.resolve emptyContext = .present "-3 Days" .duration by decide +kernel]
    exact temporal?_duration (by decide +kernel)
  have hy : temporal? (y.resolve emptyContext) = some (.span ⟨90, .minutes⟩) := by
    rw [show y.resolve emptyContext = .present "90 min" .duration by decide +kernel]
    exact temporal?_duration (by decide +kernel)
  obtain ⟨hexact, hcomm⟩ := sums_of_durations_are_exact (k := .duration) rfl hx hy
  obtain ⟨s, m, n, hresolve, -, hunit, -, hm, hn, htotal⟩ :=
    hexact .minus (Or.inr rfl) (by decide +kernel)
  cases hm
  cases hn
  exact ⟨⟨s, hresolve, hunit, htotal⟩, hcomm⟩

end ValueNode

namespace Span

/-- Two durations have no sum or no difference if values cannot hold the minutes of one of them or
of the result. There is one more case: the least duration is never taken away, though its difference
from a negative duration is one that values can hold. -/
theorem sums_fail_on_overflow_and_for_the_least_duration (a b : Span) (negate : Bool) :
    (a.combine? b negate = none ↔ a.Overflows b negate ∨ (negate = true ∧ b = least)) ∧
      ((a.combine? b negate = none ↔ a.Overflows b negate) ↔
        ¬ (negate = true ∧ b = least ∧ Text.inInt64 a.minutes = true ∧ a.minutes < 0)) := by
  refine ⟨combine?_eq_none_iff, ?_⟩
  rw [combine?_eq_none_iff, or_iff_left_iff_imp]
  constructor
  · rintro hover ⟨rfl, rfl, ha, hnegative⟩
    exact overflows_least_iff.mp (hover ⟨rfl, rfl⟩) ha hnegative
  · rintro hfits ⟨rfl, rfl⟩
    exact overflows_least_iff.mpr fun ha hnegative => hfits ⟨rfl, rfl, ha, hnegative⟩

/-- Less the least duration, minus one minute would be the greatest number of minutes, but it is not
found. -/
theorem a_difference_that_values_can_hold_is_not_found :
    let before : Span := ⟨-1, .minutes⟩
    let node := ValueNode.compound .duration .minus (.literal .duration "-1 Minutes")
      (.literal .duration "-9223372036854775808 Minutes")
    before.totalMinutes? = some (-1) ∧ least.totalMinutes? = some Text.minInt64 ∧
      before.minutes - least.minutes = Text.maxInt64 ∧ before.combine? least true = none ∧
      node.resolve ValueNode.emptyContext = .absent .duration ∧
      ¬ ∀ (a b : Span) (negate : Bool), a.combine? b negate = none ↔ a.Overflows b negate := by
  intro before node
  have hnone : before.combine? least true = none := by decide
  refine ⟨by decide, by decide, by decide, hnone, by decide +kernel, fun hall => ?_⟩
  have hfits : ¬ before.Overflows least true := by
    unfold Overflows
    decide
  exact hfits ((hall before least true).mp hnone)

end Span

end Verdict
