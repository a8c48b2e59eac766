-- Durations in text are read again, and every duration that is worked out is
-- one that values can hold.
import Verdict.Proofs.Calendar.Range
import Verdict.Span

namespace Verdict

namespace SpanUnit

/-- The letters of a unit after the first one. -/
def initial : SpanUnit → Char
  | minutes => 'M'
  | hours => 'H'
  | days => 'D'

def letters : SpanUnit → List Char
  | minutes => ['i', 'n', 'u', 't', 'e', 's']
  | hours => ['o', 'u', 'r', 's']
  | days => ['a', 'y', 's']

theorem name_toList (u : SpanUnit) : u.name.toList = u.initial :: u.letters := by
  cases u <;> decide +kernel

theorem size_pos (u : SpanUnit) : 0 < u.size := by
  cases u <;> decide

theorem finer_comm (u v : SpanUnit) : u.finer v = v.finer u := by
  cases u <;> cases v <;> rfl

theorem size_finer (u v : SpanUnit) : (u.finer v).size = min u.size v.size := by
  cases u <;> cases v <;> decide

/-- Each unit is a whole number of the finer ones. -/
theorem finer_dvd (u v : SpanUnit) : (u.finer v).size ∣ u.size ∧ (u.finer v).size ∣ v.size := by
  cases u <;> cases v <;> decide

end SpanUnit

namespace Span

/-! ## Texts -/

theorem trimStart_unit (u : SpanUnit) :
    Text.trimStart (' ' :: u.initial :: u.letters) = u.initial :: u.letters := by
  cases u <;> decide

theorem text_toList (s : Span) :
    s.text.toList = Text.intDigits s.amount ++ ' ' :: s.unit.initial :: s.unit.letters := by
  unfold text Text.intText
  rw [String.toList_append, String.toList_append, String.toList_ofList, s.unit.name_toList]
  exact List.append_assoc ..

/-- A duration that values can hold is read from its text. -/
theorem ofText?_text {s : Span} (h : Text.inInt64 s.amount = true) : ofText? s.text = some s := by
  obtain ⟨amount, unit⟩ := s
  have hunit : SpanUnit.ofInitial? unit.initial = some unit := by cases unit <;> decide
  have hletter : Text.isAsciiLetter unit.initial = true := by cases unit <;> decide
  have hword : Text.trimStart (unit.letters.dropWhile Text.isWordChar) = [] := by
    cases unit <;> decide +kernel
  have hblank : Text.isBlank ' ' = true := by decide
  have hstop : ∀ c ∈ (' ' :: unit.initial :: unit.letters).head?, c.isDigit = false := by
    intro c hc
    cases hc
    rfl
  have htake := fun n => Text.takeWhile_run (fun _ hc => Text.isDigit_of_mem_natDigits (n := n) hc)
    hstop
  have hdrop := fun n => Text.dropWhile_run (fun _ hc => Text.isDigit_of_mem_natDigits (n := n) hc)
    hstop
  have hamount := Text.readInt?_intDigits h
  unfold ofText?
  rw [text_toList]
  cases amount with
  | ofNat n =>
    obtain ⟨c, cs, hcs, hdigit⟩ := Text.exists_natDigits_eq_cons n
    obtain ⟨hminus, hplus⟩ := Text.ne_sign_of_isDigit hdigit
    have htake := htake n
    have hdrop := hdrop n
    rw [Text.intDigits] at hamount ⊢
    rw [hcs, List.cons_append] at htake hdrop
    rw [hcs] at hamount ⊢
    unfold read?
    rw [List.cons_append, Text.trimStart_cons_of_not_blank (Text.isBlank_of_isDigit hdigit)]
    simp [hminus, hplus, htake, hdrop, trimStart_unit, hletter, hword, hunit, hblank, hamount]
  | negSucc n =>
    have hne := Text.natDigits_ne_nil (n + 1)
    rw [Text.intDigits] at hamount ⊢
    unfold read?
    rw [List.cons_append, Text.trimStart_cons_of_not_blank (by decide)]
    simp only [htake, hdrop, trimStart_unit, hletter, hword, hunit, hne, hblank,
      List.singleton_append, hamount]
    rfl

/-! ## Ranges -/

/-- A part of a number that values can hold is one too. -/
theorem inInt64_tdiv {n k : Int} (h : Text.inInt64 n = true) (hk : 0 < k) :
    Text.inInt64 (n.tdiv k) = true := by
  obtain ⟨hlow, hhigh⟩ := Text.inInt64_iff.mp h
  refine Text.inInt64_iff.mpr ?_
  have hmin : Text.minInt64 ≤ 0 := by decide
  have hmax : 0 ≤ Text.maxInt64 := by decide
  rcases Int.le_total 0 n with hn | hn
  · have hnonneg : 0 ≤ n.tdiv k := Int.tdiv_nonneg hn (Int.le_of_lt hk)
    have hle : n.tdiv k ≤ n := Int.tdiv_le_self k hn
    exact ⟨by omega, by omega⟩
  · have hnonneg : 0 ≤ (-n).tdiv k := Int.tdiv_nonneg (by omega) (Int.le_of_lt hk)
    have hle : (-n).tdiv k ≤ -n := Int.tdiv_le_self k (by omega)
    rw [Int.neg_tdiv] at hnonneg hle
    exact ⟨by omega, by omega⟩

theorem inInt64_ofMinutes {n : Int} (h : Text.inInt64 n = true) (unit : SpanUnit) :
    Text.inInt64 (ofMinutes n unit).amount = true := inInt64_tdiv h unit.size_pos

/-- The time between any two moments is one that values can hold. -/
theorem inInt64_between (later earlier : Moment) :
    Text.inInt64 (between later earlier).amount = true := by
  have hminutes := later.inInt64_minutesSince earlier
  unfold between
  simp only
  split
  · exact inInt64_ofMinutes hminutes _
  · split <;> exact inInt64_ofMinutes hminutes _

/-! ## Minutes -/

theorem inRange?_eq_some_iff {n m : Int} :
    inRange? n = some m ↔ Text.inInt64 n = true ∧ n = m := by
  unfold inRange?
  split <;> simp [*]

theorem totalMinutes?_eq_some_iff {s : Span} {n : Int} :
    s.totalMinutes? = some n ↔ Text.inInt64 s.minutes = true ∧ s.minutes = n :=
  inRange?_eq_some_iff

/-- A unit that a number of minutes is a whole number of drops nothing of it. -/
theorem minutes_ofMinutes {n : Int} {unit : SpanUnit} (h : unit.size ∣ n) :
    (ofMinutes n unit).minutes = n := Int.tdiv_mul_cancel h

/-- The unit of a difference drops nothing of it. -/
theorem minutes_between (later earlier : Moment) :
    (between later earlier).minutes = later.minutesSince earlier := by
  unfold between
  simp only
  split
  · exact minutes_ofMinutes (Int.dvd_of_emod_eq_zero ‹_›)
  · split
    · exact minutes_ofMinutes (Int.dvd_of_emod_eq_zero ‹_›)
    · exact minutes_ofMinutes (Int.one_dvd _)

/-! ## Sums -/

/-- The minutes of a sum, or of a difference. -/
def sumMinutes (a b : Span) (negate : Bool) : Int :=
  if negate then a.minutes - b.minutes else a.minutes + b.minutes

theorem finer_dvd_sumMinutes (a b : Span) (negate : Bool) :
    (a.unit.finer b.unit).size ∣ a.sumMinutes b negate := by
  obtain ⟨ha, hb⟩ := a.unit.finer_dvd b.unit
  have hm : (a.unit.finer b.unit).size ∣ a.minutes := Int.dvd_mul_of_dvd_right ha
  have hn : (a.unit.finer b.unit).size ∣ b.minutes := Int.dvd_mul_of_dvd_right hb
  unfold sumMinutes
  split
  · exact Int.dvd_sub hm hn
  · exact Int.dvd_add hm hn

/-- A sum or a difference is there exactly if values can hold all minutes on the way. -/
theorem combine?_eq_some_iff {a b s : Span} {negate : Bool} :
    a.combine? b negate = some s ↔
      Text.inInt64 a.minutes = true ∧ Text.inInt64 b.minutes = true ∧
        (negate = true → Text.inInt64 (-b.minutes) = true) ∧
        Text.inInt64 (a.sumMinutes b negate) = true ∧
        s = ofMinutes (a.sumMinutes b negate) (a.unit.finer b.unit) := by
  unfold combine? sumMinutes
  cases negate with
  | false =>
    simp only [Option.bind_eq_bind, Option.bind_eq_some_iff, totalMinutes?_eq_some_iff,
      inRange?_eq_some_iff, Option.some.injEq, Bool.false_eq_true, if_false, false_implies,
      true_and]
    constructor
    · rintro ⟨n, ⟨hb, rfl⟩, -, rfl, m, ⟨ha, rfl⟩, total, ⟨htotal, rfl⟩, rfl⟩
      exact ⟨ha, hb, htotal, rfl⟩
    · rintro ⟨ha, hb, htotal, rfl⟩
      exact ⟨_, ⟨hb, rfl⟩, _, rfl, _, ⟨ha, rfl⟩, _, ⟨htotal, rfl⟩, rfl⟩
  | true =>
    simp only [Option.bind_eq_bind, Option.bind_eq_some_iff, totalMinutes?_eq_some_iff,
      inRange?_eq_some_iff, Option.some.injEq, if_true, true_implies, Int.sub_eq_add_neg]
    constructor
    · rintro ⟨n, ⟨hb, rfl⟩, k, ⟨hneg, rfl⟩, m, ⟨ha, rfl⟩, total, ⟨htotal, rfl⟩, rfl⟩
      exact ⟨ha, hb, hneg, htotal, rfl⟩
    · rintro ⟨ha, hb, hneg, htotal, rfl⟩
      exact ⟨_, ⟨hb, rfl⟩, _, ⟨hneg, rfl⟩, _, ⟨ha, rfl⟩, _, ⟨htotal, rfl⟩, rfl⟩

/-- The exact minutes of one of two durations, or of what they come to, are too many for values. -/
def Overflows (a b : Span) (negate : Bool) : Prop :=
  Text.inInt64 a.minutes = false ∨ Text.inInt64 b.minutes = false ∨
    Text.inInt64 (a.sumMinutes b negate) = false

/-- The duration of the least number of minutes. Values cannot hold its negative. -/
def least : Span := ⟨Text.minInt64, .minutes⟩

/-- The least number is no whole number of hours, so no other duration has as many minutes. -/
theorem minutes_eq_minInt64_iff {s : Span} : s.minutes = Text.minInt64 ↔ s = least := by
  obtain ⟨amount, unit⟩ := s
  unfold minutes least Text.minInt64
  cases unit <;> simp only [SpanUnit.size, Span.mk.injEq, reduceCtorEq, and_true, and_false,
    iff_false]
  all_goals omega

theorem inInt64_neg_iff {n : Int} (h : Text.inInt64 n = true) :
    Text.inInt64 (-n) = true ↔ n ≠ Text.minInt64 := by
  rw [Text.inInt64_iff] at h ⊢
  unfold Text.minInt64 Text.maxInt64 at *
  omega

/-- The difference from the least duration is one that values can hold if the other duration is
negative. -/
theorem overflows_least_iff {a : Span} :
    a.Overflows least true ↔ (Text.inInt64 a.minutes = true → ¬ a.minutes < 0) := by
  have hleast : least.minutes = Text.minInt64 := minutes_eq_minInt64_iff.mpr rfl
  unfold Overflows sumMinutes
  rw [hleast, if_pos rfl]
  simp only [← Bool.not_eq_true, Text.inInt64_iff]
  unfold Text.minInt64 Text.maxInt64
  omega

/-- A sum or a difference is not there if minutes are too many, or if the least duration is taken
away: its negative is worked out first. -/
theorem combine?_eq_none_iff {a b : Span} {negate : Bool} :
    a.combine? b negate = none ↔ a.Overflows b negate ∨ (negate = true ∧ b = least) := by
  unfold Overflows
  rw [Option.eq_none_iff_forall_ne_some]
  simp only [ne_eq, combine?_eq_some_iff]
  constructor
  · intro hnone
    by_contra hall
    simp only [not_or, Bool.not_eq_false, not_and] at hall
    obtain ⟨⟨ha, hb, hsum⟩, hleast⟩ := hall
    have hneg : negate = true → Text.inInt64 (-b.minutes) = true := fun hnegate =>
      (inInt64_neg_iff hb).mpr fun hmin => hleast hnegate (minutes_eq_minInt64_iff.mp hmin)
    exact hnone _ ⟨ha, hb, hneg, hsum, rfl⟩
  · rintro ((ha' | hb' | hsum') | ⟨hnegate, hmin⟩) s ⟨ha, hb, hneg, hsum, -⟩
    · exact Bool.false_ne_true (ha'.symm.trans ha)
    · exact Bool.false_ne_true (hb'.symm.trans hb)
    · exact Bool.false_ne_true (hsum'.symm.trans hsum)
    · exact (inInt64_neg_iff hb).mp (hneg hnegate) (minutes_eq_minInt64_iff.mpr hmin)

/-- A sum or a difference of durations is one that values can hold. -/
theorem inInt64_combine? {a b s : Span} {negate : Bool} (h : a.combine? b negate = some s) :
    Text.inInt64 s.amount = true := by
  obtain ⟨-, -, -, hrange, rfl⟩ := combine?_eq_some_iff.mp h
  exact inInt64_ofMinutes hrange _

/-- The finer unit drops nothing of a sum or of a difference. -/
theorem totalMinutes?_combine? {a b s : Span} {negate : Bool} (h : a.combine? b negate = some s) :
    s.totalMinutes? = some (a.sumMinutes b negate) := by
  obtain ⟨-, -, -, hrange, rfl⟩ := combine?_eq_some_iff.mp h
  have hminutes := minutes_ofMinutes (a.finer_dvd_sumMinutes b negate)
  exact totalMinutes?_eq_some_iff.mpr ⟨by rwa [hminutes], hminutes⟩

theorem combine?_comm (a b : Span) : a.combine? b false = b.combine? a false := by
  refine Option.ext fun s => ?_
  have hsum : a.sumMinutes b false = b.sumMinutes a false := Int.add_comm _ _
  rw [combine?_eq_some_iff, combine?_eq_some_iff, hsum, SpanUnit.finer_comm]
  simp only [Bool.false_eq_true, false_implies, true_and]
  exact and_left_comm

end Span

end Verdict
