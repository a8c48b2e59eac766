-- A date with a time of the day. A leap second is kept as the second that it
-- follows, one second late. It may follow any second of the day; in texts it
-- only follows the last one of a minute.
import Verdict.Calendar.Date

namespace Verdict

def secondsPerDay : Nat := 86400

/-- Nanoseconds of one second. -/
def nanos : Nat := 1000000000

/-- A day has such a time. From `nanos` on the nanoseconds tell of a leap second, which may follow
any second. -/
def isTime (second nano : Nat) : Bool := decide (second < secondsPerDay ∧ nano < 2 * nanos)

structure Moment where
  date : Date
  /-- The second of the day. -/
  second : Nat
  nano : Nat
  valid : isTime second nano = true
deriving DecidableEq

namespace Moment

def ofParts? (date : Date) (second nano : Nat) : Option Moment :=
  if h : isTime second nano = true then some ⟨date, second, nano, h⟩ else none

@[simp] theorem ofParts?_parts (m : Moment) : ofParts? m.date m.second m.nano = some m := by
  simp [ofParts?, m.valid]

/-- The first moment of a day. -/
def midnight (date : Date) : Moment := ⟨date, 0, 0, by decide⟩

def isMidnight (m : Moment) : Bool := m.second == 0 && m.nano == 0

def isLeapSecond (m : Moment) : Bool := decide (nanos ≤ m.nano)

/-! ## Order -/

/-- Earlier and later. A leap second comes after the second it follows. -/
def order (a b : Moment) : Ordering :=
  (a.date.order b.date).then ((compare a.second b.second).then (compare a.nano b.nano))

/-! ## Shifts -/

/-- The second and the nanoseconds from which a shift counts. A leap second is left first:
forwards to the second it follows, backwards to the second after it. -/
def shiftFrom (m : Moment) (seconds : Int) : Int × Nat :=
  if m.isLeapSecond = false ∨ seconds = 0 then (m.second, m.nano)
  else if 0 < seconds then (m.second, m.nano - nanos)
  else (m.second + 1, m.nano - nanos)

/-- The moment that is some seconds later, or earlier if they are negative. -/
def shift? (m : Moment) (seconds : Int) : Option Moment := do
  let (start, nano) := m.shiftFrom seconds
  let total := start + seconds
  let date ← m.date.addDays? (total / secondsPerDay)
  ofParts? date (total % secondsPerDay).toNat nano

/-! ## Differences -/

/-- Seconds between two times of the day. The leap second of the earlier time counts, since it
lies between them. -/
def secondsSince (later earlier : Moment) : Int :=
  let plain : Int := (later.second : Int) - earlier.second
  if earlier.second < later.second ∧ earlier.isLeapSecond = true then plain + 1
  else if later.second < earlier.second ∧ later.isLeapSecond = true then plain - 1
  else plain

/-- The nanoseconds from one moment to another. -/
def nanosSince (later earlier : Moment) : Int :=
  ((later.date.number - earlier.date.number) * secondsPerDay + later.secondsSince earlier) * nanos
    + ((later.nano : Int) - earlier.nano)

/-- The whole minutes from one moment to another. What is left over is dropped. -/
def minutesSince (later earlier : Moment) : Int := (later.nanosSince earlier).tdiv (60 * nanos)

end Moment

end Verdict
