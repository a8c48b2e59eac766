-- The texts of moments.
import Verdict.Calendar.Moment
import Verdict.Text.Integer

namespace Verdict

open Text (padded)

/-- Four digits for the years 0 to 9999. Other years have a sign and at least four digits. -/
def yearDigits (year : Int) : List Char :=
  if 0 ≤ year ∧ year ≤ 9999 then padded 4 year.toNat
  else (if year < 0 then '-' else '+') :: padded 4 year.natAbs

def Date.digits (d : Date) : List Char :=
  yearDigits d.year ++ '-' :: padded 2 d.month ++ '-' :: padded 2 d.day

namespace Moment

/-- Hours, minutes and seconds. At the end of a minute a leap second shows as the second 60, and
elsewhere as the second after the one that it follows. -/
def timeDigits (m : Moment) : List Char :=
  padded 2 (m.second / 3600) ++ ':' :: padded 2 (m.second / 60 % 60)
    ++ ':' :: padded 2 (m.second % 60 + m.nano / nanos)

/-- Date and time to the second. -/
def clockDigits (m : Moment) : List Char := m.date.digits ++ ' ' :: m.timeDigits

/-- The text of a moment as a value: at midnight the date alone. -/
def text (m : Moment) : String :=
  String.ofList (if m.isMidnight then m.date.digits else m.clockDigits)

/-- Date and time to the second, at midnight as well. -/
def clockText (m : Moment) : String := String.ofList m.clockDigits

/-- The fraction of a second in three, six or nine digits; no fraction, no digits. -/
def fractionDigits (nano : Nat) : List Char :=
  if nano = 0 then []
  else if nano % 1000000 = 0 then '.' :: padded 3 (nano / 1000000)
  else if nano % 1000 = 0 then '.' :: padded 6 (nano / 1000)
  else '.' :: padded 9 nano

/-- The text of a moment in messages: nothing is left out. -/
def fullText (m : Moment) : String :=
  String.ofList (m.clockDigits ++ fractionDigits (m.nano % nanos))

end Moment

end Verdict
