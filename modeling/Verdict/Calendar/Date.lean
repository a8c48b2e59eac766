-- Dates of the Gregorian calendar, carried on before its beginning. The
-- year 0 exists.

namespace Verdict

/-! ## Years and months -/

def isLeapYear (year : Int) : Bool := year % 4 == 0 && (year % 100 != 0 || year % 400 == 0)

/-- The lengths of the months of a year, January first. -/
def monthLengths (year : Int) : List Nat :=
  [31, if isLeapYear year then 29 else 28, 31, 30, 31, 30, 31, 31, 30, 31, 30, 31]

/-- The number of days of a month. The months are counted from 1. -/
def monthLength (year : Int) (month : Nat) : Nat := (monthLengths year).getD (month - 1) 0

def minYear : Int := -262143

def maxYear : Int := 262142

/-- The calendar has such a day. -/
def isDate (year : Int) (month day : Nat) : Bool :=
  decide (minYear ≤ year ∧ year ≤ maxYear ∧ 1 ≤ month ∧ month ≤ 12 ∧
    1 ≤ day ∧ day ≤ monthLength year month)

/-- A day of the calendar. -/
structure Date where
  year : Int
  month : Nat
  day : Nat
  valid : isDate year month day = true
deriving DecidableEq

namespace Date

def ofParts? (year : Int) (month day : Nat) : Option Date :=
  if h : isDate year month day = true then some ⟨year, month, day, h⟩ else none

@[simp] theorem ofParts?_parts (d : Date) : ofParts? d.year d.month d.day = some d := by
  simp [ofParts?, d.valid]

/-! ## Days in a row -/

/-- The days before the first day of a year, counted from the first day of the year 0. -/
def daysBeforeYear (year : Int) : Int :=
  365 * year + (year + 3) / 4 - (year + 99) / 100 + (year + 399) / 400

/-- The days of a year before the first day of a month. -/
def daysBeforeMonth (year : Int) (month : Nat) : Nat :=
  ((monthLengths year).take (month - 1)).foldl (· + ·) 0

/-- The place of the day in the row of all days. The first day of the year 0 has the place 0. -/
def number (d : Date) : Int :=
  daysBeforeYear d.year + daysBeforeMonth d.year d.month + (d.day - 1)

/-- The year that holds a place in the row of days: the mean length of a year gives it up to
one. -/
def yearOf (n : Int) : Int :=
  let guess := 400 * n / 146097
  if n < daysBeforeYear guess then guess - 1
  else if daysBeforeYear (guess + 1) ≤ n then guess + 1
  else guess

/-- The month and the day at a place inside a year, by the lengths of the months that are left. -/
def locate : List Nat → Nat → Nat → Nat × Nat
  | [], month, rest => (month, rest + 1)
  | length :: lengths, month, rest =>
    if rest < length then (month, rest + 1) else locate lengths (month + 1) (rest - length)

/-- The day at a place in the row of days, if the calendar reaches so far. -/
def ofNumber? (n : Int) : Option Date :=
  let year := yearOf n
  let (month, day) := locate (monthLengths year) 1 (n - daysBeforeYear year).toNat
  ofParts? year month day

/-- The day that is `days` later, or earlier if they are negative. -/
def addDays? (d : Date) (days : Int) : Option Date := ofNumber? (d.number + days)

/-! ## Order -/

def order (a b : Date) : Ordering :=
  (compare a.year b.year).then ((compare a.month b.month).then (compare a.day b.day))

end Date

end Verdict
