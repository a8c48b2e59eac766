-- Moments of whole seconds. Such a moment is known by its place in the row of all
-- seconds, and by this place it is ordered, shifted and subtracted.
import Verdict.Proofs.Calendar.Days

namespace Verdict

/-- A truncated quotient is the number without a rest of its own sign. -/
theorem tdiv_rest (n : Int) {k : Int} (hk : 0 < k) :
    ∃ rest, n = k * n.tdiv k + rest ∧ -k < rest ∧ rest < k ∧
      (0 ≤ n → 0 ≤ rest) ∧ (n ≤ 0 → rest ≤ 0) := by
  have hlt : (n.tmod k).natAbs < k.natAbs := by
    rw [Int.natAbs_tmod]
    exact Nat.mod_lt _ (by omega)
  refine ⟨n.tmod k, (Int.mul_tdiv_add_tmod n k).symm, by omega, by omega, Int.tmod_nonneg k, ?_⟩
  intro hn
  have hneg := Int.tmod_nonneg k (Int.neg_nonneg_of_nonpos hn)
  rw [Int.neg_tmod] at hneg
  omega

namespace Moment

/-- The place of the second of a moment in the row of all seconds. -/
def instant (m : Moment) : Int := m.date.number * secondsPerDay + m.second

variable {m n : Moment}

theorem second_lt (m : Moment) : m.second < 86400 := (isTime_iff.mp m.valid).1

theorem isLeapSecond_eq_false (hm : m.nano = 0) : m.isLeapSecond = false := by
  unfold isLeapSecond
  rw [hm]
  rfl

theorem ofParts?_eq_some_iff {date : Date} {second nano : Nat} :
    ofParts? date second nano = some m ↔ m.date = date ∧ m.second = second ∧ m.nano = nano := by
  constructor
  · intro h
    unfold ofParts? at h
    split at h
    · cases h
      exact ⟨rfl, rfl, rfl⟩
    · cases h
  · rintro ⟨rfl, rfl, rfl⟩
    exact ofParts?_parts m

theorem instant_inj (hm : m.nano = 0) (hn : n.nano = 0) (h : m.instant = n.instant) : m = n := by
  have hm' := m.second_lt
  have hn' := n.second_lt
  unfold instant secondsPerDay at h
  have hdate : m.date = n.date := Date.number_inj (by omega)
  have hsecond : m.second = n.second := by
    rw [hdate] at h
    omega
  have hparts := ofParts?_eq_some_iff.mpr ⟨hdate, hsecond, hm.trans hn.symm⟩
  rw [ofParts?_parts] at hparts
  exact (Option.some.inj hparts).symm

/-- Between two moments the calendar lacks no second. -/
theorem exists_instant {k : Int} (hm : m.instant ≤ k) (hn : k ≤ n.instant) :
    ∃ r : Moment, r.nano = 0 ∧ r.instant = k := by
  have hm' := m.second_lt
  have hn' := n.second_lt
  unfold instant secondsPerDay at hm hn
  obtain ⟨date, hdate⟩ := Date.exists_ofNumber? (d := m.date) (e := n.date) (n := k / 86400)
    (by omega) (by omega)
  have hnumber := Date.number_of_ofNumber? hdate
  have hvalid : isTime (k % 86400).toNat 0 = true :=
    isTime_iff.mpr ⟨by unfold secondsPerDay; omega, by decide⟩
  refine ⟨⟨date, (k % 86400).toNat, 0, hvalid⟩, rfl, ?_⟩
  unfold instant secondsPerDay
  simp only
  omega

/-! ## Order -/

theorem order_eq_compare (hm : m.nano = 0) (hn : n.nano = 0) :
    m.order n = compare m.instant n.instant := by
  have hm' := m.second_lt
  have hn' := n.second_lt
  unfold order
  rw [Date.order_eq_compare, hm, hn, Nat.compare_eq_eq.mpr rfl, Ordering.then_eq]
  unfold instant secondsPerDay
  rcases Int.lt_trichotomy m.date.number n.date.number with hdate | hdate | hdate
  · rw [Int.compare_eq_lt.mpr hdate, Int.compare_eq_lt.mpr (by omega)]
    rfl
  · rw [Int.compare_eq_eq.mpr hdate, Ordering.eq_then, hdate]
    rcases Nat.lt_trichotomy m.second n.second with hsecond | hsecond | hsecond
    · rw [Nat.compare_eq_lt.mpr hsecond, Int.compare_eq_lt.mpr (by omega)]
    · rw [Nat.compare_eq_eq.mpr hsecond, Int.compare_eq_eq.mpr (by omega)]
    · rw [Nat.compare_eq_gt.mpr hsecond, Int.compare_eq_gt.mpr (by omega)]
  · rw [Int.compare_eq_gt.mpr hdate, Int.compare_eq_gt.mpr (by omega)]
    rfl

/-! ## Shifts -/

/-- A shift moves a moment along the row of seconds, and no moment of the calendar is left out. -/
theorem shift?_eq_some_iff (hm : m.nano = 0) {seconds : Int} :
    m.shift? seconds = some n ↔ n.nano = 0 ∧ n.instant = m.instant + seconds := by
  have hm' := m.second_lt
  have hn' := n.second_lt
  have hfrom : m.shiftFrom seconds = ((m.second : Int), 0) := by
    unfold shiftFrom
    rw [if_pos (Or.inl (isLeapSecond_eq_false hm)), hm]
  unfold shift? Date.addDays?
  simp only [hfrom, Option.bind_eq_bind, Option.bind_eq_some_iff, Date.ofNumber?_eq_some_iff,
    ofParts?_eq_some_iff]
  unfold instant secondsPerDay
  constructor
  · rintro ⟨date, hdate, rfl, hsecond, hnano⟩
    exact ⟨hnano, by omega⟩
  · rintro ⟨hnano, hinstant⟩
    exact ⟨n.date, by omega, rfl, by omega, hnano⟩

/-! ## Differences -/

theorem nanosSince_eq (hm : m.nano = 0) (hn : n.nano = 0) :
    m.nanosSince n = (m.instant - n.instant) * nanos := by
  have hplain : m.secondsSince n = (m.second : Int) - n.second := by
    unfold secondsSince
    simp only [isLeapSecond_eq_false hm, isLeapSecond_eq_false hn, Bool.false_eq_true, and_false,
      if_false]
  unfold nanosSince instant
  rw [hplain, hm, hn, Int.sub_self, Int.add_zero, Int.sub_mul]
  congr 1
  omega

theorem minutesSince_eq (hm : m.nano = 0) (hn : n.nano = 0) :
    m.minutesSince n = (m.instant - n.instant).tdiv 60 := by
  unfold minutesSince
  rw [nanosSince_eq hm hn]
  exact Int.mul_tdiv_mul_of_pos_left (b := nanos) _ _ (by decide)

/-- Two moments are less than twenty trillion seconds apart. -/
theorem instant_sub_bounds (m n : Moment) :
    -20000000000000 < m.instant - n.instant ∧ m.instant - n.instant < 20000000000000 := by
  have hm := m.date.number_bounds
  have hn := n.date.number_bounds
  have hm' := m.second_lt
  have hn' := n.second_lt
  unfold instant secondsPerDay
  omega

end Moment

end Verdict
