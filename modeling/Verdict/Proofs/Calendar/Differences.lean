-- Differences of dates. They are exact to the minute and in the coarsest unit that
-- holds them, they change their sign with the direction, and their texts are read
-- again.
import Verdict.Proofs.Calendar.Seconds
import Verdict.Proofs.Span

namespace Verdict

namespace Moment

/-- The place of a moment in the row of all nanoseconds. -/
def nanoInstant (m : Moment) : Int := m.instant * nanos + m.nano

theorem nanosSince_eq_sub {m n : Moment} (hm : m.isLeapSecond = false)
    (hn : n.isLeapSecond = false) : m.nanosSince n = m.nanoInstant - n.nanoInstant := by
  have hplain : m.secondsSince n = (m.second : Int) - n.second := by
    unfold secondsSince
    simp [hm, hn]
  unfold nanosSince nanoInstant instant secondsPerDay nanos
  rw [hplain]
  omega

/-- The other direction counts the same leap second. -/
theorem secondsSince_swap (m n : Moment) : n.secondsSince m = -m.secondsSince n := by
  unfold secondsSince
  simp only
  split
  · omega
  · split <;> omega

theorem nanosSince_swap (m n : Moment) : n.nanosSince m = -m.nanosSince n := by
  unfold nanosSince secondsPerDay nanos
  rw [secondsSince_swap m n]
  omega

theorem minutesSince_swap (m n : Moment) : n.minutesSince m = -m.minutesSince n := by
  unfold minutesSince
  rw [nanosSince_swap m n, Int.neg_tdiv]

end Moment

namespace Span

/-! ## Units -/

/-- The coarsest unit that a number of minutes is a whole number of. -/
def coarsest (n : Int) : SpanUnit :=
  if SpanUnit.days.size ∣ n then .days else if SpanUnit.hours.size ∣ n then .hours else .minutes

theorem between_eq (later earlier : Moment) : between later earlier =
    ofMinutes (later.minutesSince earlier) (coarsest (later.minutesSince earlier)) := by
  unfold between coarsest
  simp only [Int.dvd_iff_emod_eq_zero]
  split
  · rfl
  · split <;> rfl

theorem coarsest_neg (n : Int) : coarsest (-n) = coarsest n := by
  unfold coarsest
  simp only [Int.dvd_neg]

theorem size_coarsest_dvd (n : Int) : (coarsest n).size ∣ n := by
  unfold coarsest
  split
  · assumption
  · split
    · assumption
    · exact Int.one_dvd n

/-- No coarser unit would hold the number. -/
theorem size_le_coarsest {n : Int} {unit : SpanUnit} (h : unit.size ∣ n) :
    unit.size ≤ (coarsest n).size := by
  unfold coarsest
  by_cases hdays : SpanUnit.days.size ∣ n
  · rw [if_pos hdays]
    cases unit <;> decide
  · rw [if_neg hdays]
    by_cases hhours : SpanUnit.hours.size ∣ n
    · rw [if_pos hhours]
      cases unit with
      | days => exact absurd h hdays
      | minutes | hours => decide
    · rw [if_neg hhours]
      cases unit with
      | days => exact absurd h hdays
      | hours => exact absurd h hhours
      | minutes => decide

theorem ofMinutes_neg (n : Int) (unit : SpanUnit) :
    ofMinutes (-n) unit = ⟨-(ofMinutes n unit).amount, unit⟩ := by
  unfold ofMinutes
  rw [Int.neg_tdiv]

theorem between_swap (later earlier : Moment) : between earlier later =
    ⟨-(between later earlier).amount, (between later earlier).unit⟩ := by
  rw [between_eq, between_eq, Moment.minutesSince_swap, coarsest_neg, ofMinutes_neg]
  rfl

/-! ## The laws of differences -/

/-- The difference of two dates without a leap second has as many minutes as lie between them, what
is left over dropped in either direction. Its unit is the coarsest that holds them, the opposite
difference is the negative one, and its text is read again, as that of every duration is. -/
theorem differences_of_dates_are_exact_to_the_minute :
    (∀ a b : Moment, a.isLeapSecond = false → b.isLeapSecond = false →
      ∃ n : Int, n = (a.nanoInstant - b.nanoInstant).tdiv (60 * nanos) ∧
        (between a b).totalMinutes? = some n ∧
        (between a b).unit.size ∣ n ∧
        (∀ unit : SpanUnit, unit.size ∣ n → unit.size ≤ (between a b).unit.size) ∧
        between b a = ⟨-(between a b).amount, (between a b).unit⟩ ∧
        ofText? (between a b).text = some (between a b)) ∧
    ∀ s : Span, Text.inInt64 s.amount = true → ofText? s.text = some s := by
  refine ⟨fun a b ha hb => ?_, fun s hs => ofText?_text hs⟩
  have hunit : (between a b).unit = coarsest (a.minutesSince b) := by
    rw [between_eq]
    rfl
  have htotal : (between a b).totalMinutes? = some (a.minutesSince b) := by
    apply totalMinutes?_eq_some_iff.mpr
    rw [minutes_between]
    exact ⟨a.inInt64_minutesSince b, rfl⟩
  refine ⟨a.minutesSince b, ?_, htotal, ?_, ?_, between_swap a b, ?_⟩
  · unfold Moment.minutesSince
    rw [Moment.nanosSince_eq_sub ha hb]
  · rw [hunit]
    exact size_coarsest_dvd _
  · intro unit hdvd
    rw [hunit]
    exact size_le_coarsest hdvd
  · exact ofText?_text (inInt64_between a b)

/-- From half past eleven in the evening of a leap day to half past twelve and half a minute in the
night: the half minute is dropped, in either direction, and the rest is an hour. -/
theorem half_a_minute_is_dropped_from_an_hour_back :
    let a : Moment := ⟨⟨2020, 2, 29, by decide⟩, 84600, 0, by decide⟩
    let b : Moment := ⟨⟨2020, 3, 1, by decide⟩, 1830, 0, by decide⟩
    b.date.number = a.date.number + 1 ∧ (between a b).totalMinutes? = some (-60) ∧
      (between a b).text = "-1 Hours" ∧ (between b a).text = "1 Hours" ∧
      ofText? "-1 Hours" = some (between a b) := by
  intro a b
  obtain ⟨n, hn, htotal, -, -, hswap, hread⟩ :=
    differences_of_dates_are_exact_to_the_minute.1 a b (by decide) (by decide)
  have hminutes : n = -60 := hn.trans (by decide +kernel)
  have htext : (between a b).text = "-1 Hours" := by decide +kernel
  rw [htext] at hread
  exact ⟨by decide +kernel, hminutes ▸ htotal, htext, by rw [hswap]; decide +kernel, hread⟩

end Span

end Verdict
