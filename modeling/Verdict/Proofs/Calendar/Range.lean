-- How far the calendar reaches: the days have numbers below a hundred million,
-- and the minutes between two moments are a number that values can hold.
import Verdict.Calendar.Moment
import Verdict.Proofs.Text.Digits

namespace Verdict

theorem Date.daysBeforeMonth_le (year : Int) {month : Nat} (h : month ≤ 12) :
    Date.daysBeforeMonth year month ≤ 366 := by
  unfold Date.daysBeforeMonth monthLengths
  have hall : ∀ february ∈ [28, 29], ∀ k < 12,
      (([31, february, 31, 30, 31, 30, 31, 31, 30, 31, 30, 31] : List Nat).take k).foldl (· + ·) 0
        ≤ 366 := by decide
  split
  · exact hall 29 (by decide) (month - 1) (by omega)
  · exact hall 28 (by decide) (month - 1) (by omega)

theorem monthLength_le (year : Int) (month : Nat) : monthLength year month ≤ 31 := by
  unfold monthLength
  have hall : ∀ n ∈ monthLengths year, n ≤ 31 := by
    unfold monthLengths
    split <;> decide
  rw [List.getD_eq_getElem?_getD]
  rcases h : (monthLengths year)[month - 1]? with _ | n
  · exact Nat.zero_le _
  · exact hall n (List.mem_of_getElem? h)

theorem isDate_iff {year : Int} {month day : Nat} : isDate year month day = true ↔
    minYear ≤ year ∧ year ≤ maxYear ∧ 1 ≤ month ∧ month ≤ 12 ∧ 1 ≤ day ∧
      day ≤ monthLength year month := decide_eq_true_iff

/-- The row of all days has less than a hundred million in either direction. -/
theorem Date.number_bounds (d : Date) : -100000000 < d.number ∧ d.number < 100000000 := by
  obtain ⟨hmin, hmax, -, hmonth, hday, hlength⟩ := isDate_iff.mp d.valid
  have hlength := Nat.le_trans hlength (monthLength_le d.year d.month)
  have hbefore := daysBeforeMonth_le d.year hmonth
  unfold minYear at hmin
  unfold maxYear at hmax
  unfold number daysBeforeYear
  omega

theorem isTime_iff {second nano : Nat} : isTime second nano = true ↔
    second < secondsPerDay ∧ nano < 2 * nanos := decide_eq_true_iff

/-- The minutes between any two moments are a number that values can hold. -/
theorem Moment.inInt64_minutesSince (later earlier : Moment) :
    Text.inInt64 (later.minutesSince earlier) = true := by
  have hlater := later.date.number_bounds
  have hearlier := earlier.date.number_bounds
  have hl := isTime_iff.mp later.valid
  have he := isTime_iff.mp earlier.valid
  unfold secondsPerDay nanos at hl he
  have hseconds : -86402 < later.secondsSince earlier ∧ later.secondsSince earlier < 86402 := by
    unfold secondsSince
    simp only
    split
    · omega
    · split <;> omega
  have hnanos : -20000000000000000000000 < later.nanosSince earlier ∧
      later.nanosSince earlier < 20000000000000000000000 := by
    unfold nanosSince secondsPerDay nanos
    omega
  unfold minutesSince nanos
  generalize later.nanosSince earlier = n at hnanos
  refine Text.inInt64_iff.mpr ?_
  unfold Text.minInt64 Text.maxInt64
  rcases Int.le_total 0 n with hn | hn
  · rw [Int.tdiv_eq_ediv_of_nonneg hn]
    omega
  · have hneg : n.tdiv (60 * (1000000000 : Nat)) = -((-n) / (60 * (1000000000 : Nat))) := by
      rw [← Int.tdiv_eq_ediv_of_nonneg (by omega), Int.neg_tdiv, Int.neg_neg]
    rw [hneg]
    omega

end Verdict
