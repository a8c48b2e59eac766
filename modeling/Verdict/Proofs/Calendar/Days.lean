-- Days in a row. Each day of the calendar has a number of its own, the number
-- gives the day back, and an earlier day has a smaller number.
import Mathlib.Order.Compare
import Verdict.Proofs.Calendar.Range

namespace Verdict.Date

/-! ## Years -/

theorem isLeapYear_iff {year : Int} :
    isLeapYear year = true ↔ year % 4 = 0 ∧ (year % 100 ≠ 0 ∨ year % 400 = 0) := by
  unfold isLeapYear
  simp

/-- A year ends where its last month ends. -/
theorem daysBeforeYear_succ (year : Int) :
    daysBeforeYear (year + 1) = daysBeforeYear year + daysBeforeMonth year 13 := by
  have hlength : daysBeforeMonth year 13 = if isLeapYear year = true then 366 else 365 := by
    unfold daysBeforeMonth monthLengths
    split <;> rfl
  rw [hlength]
  unfold daysBeforeYear
  by_cases hleap : isLeapYear year = true
  · rw [if_pos hleap]
    rw [isLeapYear_iff] at hleap
    omega
  · rw [if_neg hleap]
    rw [isLeapYear_iff] at hleap
    omega

theorem daysBeforeYear_succ_le {year later : Int} (h : year < later) :
    daysBeforeYear (year + 1) ≤ daysBeforeYear later := by
  unfold daysBeforeYear
  omega

theorem yearOf_bounds (n : Int) :
    daysBeforeYear (yearOf n) ≤ n ∧ n < daysBeforeYear (yearOf n + 1) := by
  unfold yearOf
  simp only
  -- The guess misses the year by one at most.
  have hlow : daysBeforeYear (400 * n / 146097 - 1) ≤ n := by
    unfold daysBeforeYear
    omega
  have hhigh : n < daysBeforeYear (400 * n / 146097 + 1 + 1) := by
    unfold daysBeforeYear
    omega
  split
  · rw [Int.sub_add_cancel]
    exact ⟨hlow, ‹_›⟩
  · split
    · exact ⟨‹_›, hhigh⟩
    · omega

theorem yearOf_eq {n year : Int} (hlow : daysBeforeYear year ≤ n)
    (hhigh : n < daysBeforeYear (year + 1)) : yearOf n = year := by
  obtain ⟨hlow', hhigh'⟩ := yearOf_bounds n
  rcases Int.lt_trichotomy (yearOf n) year with h | h | h
  · have := daysBeforeYear_succ_le h
    omega
  · exact h
  · have := daysBeforeYear_succ_le h
    omega

/-! ## Months -/

theorem length_monthLengths (year : Int) : (monthLengths year).length = 12 := rfl

theorem getElem?_monthLengths (year : Int) {k : Nat} (hk : k < 12) :
    (monthLengths year)[k]? = some (monthLength year (k + 1)) := by
  rw [← length_monthLengths year] at hk
  unfold monthLength
  rw [Nat.add_sub_cancel, List.getD_eq_getElem?_getD, List.getElem?_eq_getElem hk, Option.getD_some]

theorem daysBeforeMonth_succ (year : Int) {month : Nat} (hlow : 1 ≤ month) (hhigh : month ≤ 12) :
    daysBeforeMonth year (month + 1) = daysBeforeMonth year month + monthLength year month := by
  obtain ⟨k, rfl⟩ := Nat.exists_eq_add_of_le' hlow
  unfold daysBeforeMonth
  rw [Nat.add_sub_cancel, Nat.add_sub_cancel, List.take_add_one,
    getElem?_monthLengths year hhigh, Option.toList_some, List.foldl_append]
  rfl

theorem daysBeforeMonth_mono (year : Int) {month later : Nat} (hlow : 1 ≤ month)
    (h : month ≤ later) (hhigh : later ≤ 13) :
    daysBeforeMonth year month ≤ daysBeforeMonth year later := by
  induction later, h using Nat.le_induction with
  | base => exact Nat.le_refl _
  | succ k hk ih =>
    have hsucc := daysBeforeMonth_succ year (Nat.le_trans hlow hk) (by omega)
    have hle := ih (by omega)
    omega

theorem foldl_add (start : Nat) (lengths : List Nat) :
    lengths.foldl (· + ·) start = start + lengths.foldl (· + ·) 0 := by
  show lengths.foldl (· + ·) (start + 0) = _
  exact List.foldl_assoc

/-- A place is found by the lengths in front of it. -/
theorem locate_eq {lengths : List Nat} {k length rest : Nat} (hk : lengths[k]? = some length)
    (hrest : rest < length) (month : Nat) :
    locate lengths month ((lengths.take k).foldl (· + ·) 0 + rest) = (month + k, rest + 1) := by
  induction lengths generalizing k month with
  | nil => cases hk
  | cons first lengths ih =>
    cases k with
    | zero =>
      cases hk
      simp [locate, hrest]
    | succ k =>
      rw [List.take_succ_cons, List.foldl_cons, foldl_add, locate, if_neg (by omega)]
      have hback : 0 + first + (lengths.take k).foldl (· + ·) 0 + rest - first =
          (lengths.take k).foldl (· + ·) 0 + rest := by omega
      rw [hback, ih hk, Nat.add_right_comm, Nat.add_assoc]

/-- Each place in front of the end lies in one of the lengths. -/
theorem exists_place (lengths : List Nat) (place : Nat) (h : place < lengths.foldl (· + ·) 0) :
    ∃ k length rest, lengths[k]? = some length ∧ rest < length ∧
      place = (lengths.take k).foldl (· + ·) 0 + rest := by
  induction lengths generalizing place with
  | nil => exact absurd h (Nat.not_lt_zero _)
  | cons first lengths ih =>
    rw [List.foldl_cons, foldl_add] at h
    by_cases hfirst : place < first
    · exact ⟨0, first, place, rfl, hfirst, by simp⟩
    · obtain ⟨k, length, rest, hk, hrest, hplace⟩ := ih (place - first) (by omega)
      refine ⟨k + 1, length, rest, hk, hrest, ?_⟩
      rw [List.take_succ_cons, List.foldl_cons, foldl_add]
      omega

/-- The month and the day at a place inside a year. -/
theorem locate_monthLengths (year : Int) {month day : Nat} (hlow : 1 ≤ month) (hhigh : month ≤ 12)
    (hday : 1 ≤ day) (hlength : day ≤ monthLength year month) :
    locate (monthLengths year) 1 (daysBeforeMonth year month + (day - 1)) = (month, day) := by
  obtain ⟨k, rfl⟩ := Nat.exists_eq_add_of_le' hlow
  obtain ⟨j, rfl⟩ := Nat.exists_eq_add_of_le' hday
  have hlocate := locate_eq (getElem?_monthLengths year hhigh) hlength 1
  rw [Nat.add_comm 1 k] at hlocate
  exact hlocate

theorem exists_month_day (year : Int) (place : Nat) (h : place < daysBeforeMonth year 13) :
    ∃ month day, 1 ≤ month ∧ month ≤ 12 ∧ 1 ≤ day ∧ day ≤ monthLength year month ∧
      place = daysBeforeMonth year month + (day - 1) := by
  obtain ⟨k, length, rest, hk, hrest, hplace⟩ := exists_place (monthLengths year) place h
  have hlt : k < 12 := (List.getElem?_eq_some_iff.mp hk).1
  rw [getElem?_monthLengths year hlt, Option.some.injEq] at hk
  exact ⟨k + 1, rest + 1, by omega, hlt, by omega, by omega, hplace⟩

/-! ## Days -/

/-- The place of a day in its year. -/
def place (d : Date) : Nat := daysBeforeMonth d.year d.month + (d.day - 1)

theorem number_eq (d : Date) : d.number = daysBeforeYear d.year + d.place := by
  obtain ⟨-, -, -, -, hday, -⟩ := isDate_iff.mp d.valid
  unfold number place
  omega

/-- A day lies in front of the next month. -/
theorem place_lt_month (d : Date) : d.place < daysBeforeMonth d.year (d.month + 1) := by
  obtain ⟨-, -, hlow, hhigh, hday, hlength⟩ := isDate_iff.mp d.valid
  rw [daysBeforeMonth_succ d.year hlow hhigh]
  unfold place
  omega

theorem number_lt_year (d : Date) : d.number < daysBeforeYear (d.year + 1) := by
  obtain ⟨-, -, -, hhigh, -, -⟩ := isDate_iff.mp d.valid
  have hmonth := d.place_lt_month
  have hyear : daysBeforeMonth d.year (d.month + 1) ≤ daysBeforeMonth d.year 13 :=
    daysBeforeMonth_mono d.year (by omega) (by omega) (Nat.le_refl _)
  rw [number_eq, daysBeforeYear_succ]
  omega

theorem yearOf_number (d : Date) : yearOf d.number = d.year := by
  refine yearOf_eq ?_ d.number_lt_year
  rw [number_eq]
  omega

/-- Each day is found by its number. -/
theorem ofNumber?_number (d : Date) : ofNumber? d.number = some d := by
  obtain ⟨-, -, hlow, hhigh, hday, hlength⟩ := isDate_iff.mp d.valid
  have hplace : (d.number - daysBeforeYear d.year).toNat = d.place := by
    rw [number_eq]
    omega
  unfold ofNumber?
  simp only [yearOf_number, hplace]
  rw [place, locate_monthLengths d.year hlow hhigh hday hlength]
  exact ofParts?_parts d

/-- The parts of the day with a number. Only the year may be one that the calendar lacks. -/
theorem exists_parts (n : Int) : ∃ month day, 1 ≤ month ∧ month ≤ 12 ∧ 1 ≤ day ∧
    day ≤ monthLength (yearOf n) month ∧ ofNumber? n = ofParts? (yearOf n) month day ∧
    n = daysBeforeYear (yearOf n) + (daysBeforeMonth (yearOf n) month + (day - 1) : Nat) := by
  obtain ⟨hlow, hhigh⟩ := yearOf_bounds n
  rw [daysBeforeYear_succ] at hhigh
  obtain ⟨month, day, hmonth, hmonth', hday, hlength, hplace⟩ :=
    exists_month_day (yearOf n) (n - daysBeforeYear (yearOf n)).toNat (by omega)
  refine ⟨month, day, hmonth, hmonth', hday, hlength, ?_, by omega⟩
  unfold ofNumber?
  simp only [hplace, locate_monthLengths (yearOf n) hmonth hmonth' hday hlength]

/-- The day that is found has the number. -/
theorem number_of_ofNumber? {n : Int} {d : Date} (h : ofNumber? n = some d) : d.number = n := by
  obtain ⟨month, day, -, -, -, -, hparts, hn⟩ := exists_parts n
  rw [hparts] at h
  unfold ofParts? at h
  split at h
  · cases h
    rw [number_eq]
    exact hn.symm
  · cases h

theorem ofNumber?_eq_some_iff {n : Int} {d : Date} : ofNumber? n = some d ↔ d.number = n := by
  constructor
  · exact number_of_ofNumber?
  · rintro rfl
    exact ofNumber?_number d

theorem number_inj {d e : Date} (h : d.number = e.number) : d = e := by
  have hd := ofNumber?_number d
  rw [h, ofNumber?_number] at hd
  exact (Option.some.inj hd).symm

/-- Between two days the calendar lacks none. -/
theorem exists_ofNumber? {d e : Date} {n : Int} (hd : d.number ≤ n) (he : n ≤ e.number) :
    ∃ x, ofNumber? n = some x := by
  obtain ⟨hmin, -⟩ := isDate_iff.mp d.valid
  obtain ⟨-, hmax, -⟩ := isDate_iff.mp e.valid
  obtain ⟨month, day, hmonth, hmonth', hday, hlength, hparts, -⟩ := exists_parts n
  obtain ⟨hlow, hhigh⟩ := yearOf_bounds n
  have hfirst : d.year ≤ yearOf n := by
    by_contra hlt
    have hyear := daysBeforeYear_succ_le (Int.not_le.mp hlt)
    rw [number_eq] at hd
    omega
  have hlast : yearOf n ≤ e.year := by
    by_contra hlt
    have hyear := daysBeforeYear_succ_le (Int.not_le.mp hlt)
    have hnumber := e.number_lt_year
    omega
  have hvalid : isDate (yearOf n) month day = true :=
    isDate_iff.mpr ⟨by omega, by omega, hmonth, hmonth', hday, hlength⟩
  rw [hparts, ofParts?, dif_pos hvalid]
  exact ⟨_, rfl⟩

/-! ## Order -/

theorem number_lt_of_year {d e : Date} (h : d.year < e.year) : d.number < e.number := by
  have hyear := daysBeforeYear_succ_le h
  have hnumber := d.number_lt_year
  rw [number_eq e]
  omega

theorem number_lt_of_month {d e : Date} (hyear : d.year = e.year) (h : d.month < e.month) :
    d.number < e.number := by
  obtain ⟨-, -, -, hhigh, -, -⟩ := isDate_iff.mp e.valid
  have hmonth := d.place_lt_month
  have hmono : daysBeforeMonth d.year (d.month + 1) ≤ daysBeforeMonth d.year e.month :=
    daysBeforeMonth_mono d.year (by omega) h (by omega)
  have hplace : d.place < e.place := by
    unfold place at hmonth ⊢
    rw [← hyear]
    omega
  rw [number_eq, number_eq, hyear]
  omega

theorem number_lt_of_day {d e : Date} (hyear : d.year = e.year) (hmonth : d.month = e.month)
    (h : d.day < e.day) : d.number < e.number := by
  obtain ⟨-, -, -, -, hday, -⟩ := isDate_iff.mp d.valid
  rw [number_eq, number_eq]
  unfold place
  rw [hyear, hmonth]
  omega

/-- The order of two days is that of their numbers. -/
theorem order_eq_compare (d e : Date) : d.order e = compare d.number e.number := by
  unfold order
  rcases Int.lt_trichotomy d.year e.year with hyear | hyear | hyear
  · rw [Int.compare_eq_lt.mpr hyear, Int.compare_eq_lt.mpr (number_lt_of_year hyear)]
    rfl
  · rw [Int.compare_eq_eq.mpr hyear, Ordering.eq_then]
    rcases Nat.lt_trichotomy d.month e.month with hmonth | hmonth | hmonth
    · rw [Nat.compare_eq_lt.mpr hmonth, Int.compare_eq_lt.mpr (number_lt_of_month hyear hmonth)]
      rfl
    · rw [Nat.compare_eq_eq.mpr hmonth, Ordering.eq_then]
      rcases Nat.lt_trichotomy d.day e.day with hday | hday | hday
      · rw [Nat.compare_eq_lt.mpr hday, Int.compare_eq_lt.mpr (number_lt_of_day hyear hmonth hday)]
      · rw [Nat.compare_eq_eq.mpr hday, number_eq, number_eq, place, place, hyear, hmonth, hday,
          Int.compare_eq_eq.mpr rfl]
      · rw [Nat.compare_eq_gt.mpr hday,
          Int.compare_eq_gt.mpr (number_lt_of_day hyear.symm hmonth.symm hday)]
    · rw [Nat.compare_eq_gt.mpr hmonth,
        Int.compare_eq_gt.mpr (number_lt_of_month hyear.symm hmonth)]
      rfl
  · rw [Int.compare_eq_gt.mpr hyear, Int.compare_eq_gt.mpr (number_lt_of_year hyear)]
    rfl

end Verdict.Date
