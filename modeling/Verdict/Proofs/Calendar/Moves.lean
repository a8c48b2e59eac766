-- Moments of whole seconds moved by durations. A move is undone by the opposite
-- one. Moved by its difference from another moment, a moment comes within a
-- minute of that one and does not pass it.
import Verdict.Proofs.Calendar.Seconds
import Verdict.Proofs.Span

namespace Verdict

theorem Span.seconds?_eq_some_iff {s : Span} {n : Int} :
    s.seconds? = some n ↔ (-maxShift ≤ n ∧ n ≤ maxShift) ∧ s.minutes * 60 = n := by
  unfold seconds?
  simp only
  constructor
  · intro h
    split at h
    · cases h
      exact ⟨‹_›, rfl⟩
    · cases h
  · rintro ⟨hrange, rfl⟩
    exact if_pos hrange

namespace Moment

variable {m n : Moment} {s : Span} {negate : Bool}

/-! ## Forth and back -/

/-- The moment that is a duration later, or earlier. -/
def moved? (m : Moment) (s : Span) (negate : Bool) : Option Moment := do
  let seconds ← s.seconds?
  m.shift? (if negate then -seconds else seconds)

theorem moved?_eq_some_iff (hm : m.nano = 0) :
    m.moved? s negate = some n ↔ ∃ seconds, s.seconds? = some seconds ∧ n.nano = 0 ∧
      n.instant = m.instant + if negate then -seconds else seconds := by
  unfold moved?
  simp only [Option.bind_eq_bind, Option.bind_eq_some_iff, shift?_eq_some_iff hm]

/-- A move is undone by the opposite one. -/
theorem moved?_back (hm : m.nano = 0) (h : m.moved? s negate = some n) :
    n.nano = 0 ∧ n.moved? s (!negate) = some m := by
  obtain ⟨seconds, hseconds, hn, hinstant⟩ := (moved?_eq_some_iff hm).mp h
  refine ⟨hn, (moved?_eq_some_iff hn).mpr ⟨seconds, hseconds, hm, ?_⟩⟩
  cases negate <;> simp at hinstant ⊢ <;> omega

/-! ## Towards another moment -/

/-- A moment that is on the way from a first one towards a last one, less than a minute short. -/
structure NearlyReaches (m first last : Moment) : Prop where
  whole : m.nano = 0
  near : (last.nanosSince m).natAbs < 60 * nanos
  not_after : first.order last ≠ .gt → m.order last ≠ .gt
  not_before : first.order last ≠ .lt → m.order last ≠ .lt
  exact_iff : m = last ↔ (60 * nanos : Int) ∣ last.nanosSince first

/-- No difference is too large for a move. -/
theorem seconds?_between (hm : m.nano = 0) (hn : n.nano = 0) :
    (Span.between m n).seconds? = some (m.minutesSince n * 60) := by
  refine Span.seconds?_eq_some_iff.mpr ⟨?_, by rw [Span.minutes_between]⟩
  have hbounds := m.instant_sub_bounds n
  obtain ⟨rest, hrest, hlow, hhigh, -⟩ :=
    tdiv_rest (m.instant - n.instant) (by decide : (0 : Int) < 60)
  rw [minutesSince_eq hm hn]
  unfold Span.maxShift
  omega

theorem order_ne_gt_iff (hm : m.nano = 0) (hn : n.nano = 0) :
    m.order n ≠ .gt ↔ m.instant ≤ n.instant := by
  rw [order_eq_compare hm hn, Ne, Int.compare_eq_gt]
  omega

theorem order_ne_lt_iff (hm : m.nano = 0) (hn : n.nano = 0) :
    m.order n ≠ .lt ↔ n.instant ≤ m.instant := by
  rw [order_eq_compare hm hn, Ne, Int.compare_eq_lt]
  omega

theorem exists_moved?_between (hm : m.nano = 0) (hn : n.nano = 0) :
    ∃ r, n.moved? (Span.between m n) false = some r ∧ r.NearlyReaches n m := by
  obtain ⟨rest, hrest, hlow, hhigh, hforwards, hbackwards⟩ :=
    tdiv_rest (m.instant - n.instant) (by decide : (0 : Int) < 60)
  rw [← minutesSince_eq hm hn] at hrest
  have hplace : ∃ r : Moment, r.nano = 0 ∧ r.instant = n.instant + m.minutesSince n * 60 := by
    rcases Int.le_total n.instant m.instant with hle | hle
    · exact exists_instant (m := n) (n := m) (by omega) (by omega)
    · exact exists_instant (m := m) (n := n) (by omega) (by omega)
  obtain ⟨r, hr, hinstant⟩ := hplace
  refine ⟨r, (moved?_eq_some_iff hn).mpr ⟨_, seconds?_between hm hn, hr, hinstant⟩, hr,
    ?_, ?_, ?_, ?_⟩
  · rw [nanosSince_eq hm hr]
    unfold nanos
    omega
  · rw [order_ne_gt_iff hn hm, order_ne_gt_iff hr hm]
    omega
  · rw [order_ne_lt_iff hn hm, order_ne_lt_iff hr hm]
    omega
  · have hinj : r = m ↔ r.instant = m.instant :=
      ⟨fun h => by rw [h], instant_inj hr hm⟩
    rw [hinj, nanosSince_eq hm hn]
    unfold nanos
    omega

end Moment

end Verdict
