-- Durations: a whole number of days, hours or minutes.
import Verdict.Calendar.Moment
import Verdict.Text.Ascii
import Verdict.Text.Integer
import Verdict.Text.Word

namespace Verdict

/-! ## Units -/

/-- The units of durations, the finest first. -/
inductive SpanUnit where
  | minutes | hours | days
deriving DecidableEq, Repr

namespace SpanUnit

/-- The minutes of one unit. -/
def size : SpanUnit → Int
  | minutes => 1
  | hours => 60
  | days => 1440

def name : SpanUnit → String
  | minutes => "Minutes"
  | hours => "Hours"
  | days => "Days"

/-- The unit of a name, told by the first letter of the name. -/
def ofInitial? (c : Char) : Option SpanUnit :=
  match Text.asciiLower c with
  | 'd' => some days
  | 'h' => some hours
  | 'm' => some minutes
  | _ => none

/-- The finer of two units. -/
def finer (a b : SpanUnit) : SpanUnit := if a.size ≤ b.size then a else b

end SpanUnit

/-! ## Durations -/

structure Span where
  amount : Int
  unit : SpanUnit
deriving DecidableEq, Repr

namespace Span

def text (s : Span) : String := Text.intText s.amount ++ " " ++ s.unit.name

/-- A whole number, blanks, and a word that begins with the letter of a unit; blanks may stand
around it. -/
def read? (cs : List Char) : Option Span := do
  let cs := Text.trimStart cs
  let (sign, cs) := match cs with
    | '+' :: rest => (['+'], rest)
    | '-' :: rest => (['-'], rest)
    | _ => ([], cs)
  let digits := cs.takeWhile Char.isDigit
  let rest := cs.dropWhile Char.isDigit
  match rest with
  | [] => none
  | c :: _ =>
    if digits = [] ∨ Text.isBlank c = false then none
    else match Text.trimStart rest with
      | [] => none
      | initial :: word =>
        if Text.isAsciiLetter initial = false ∨
            Text.trimStart (word.dropWhile Text.isWordChar) ≠ [] then none
        else do
          let amount ← Text.readInt? (sign ++ digits)
          let unit ← SpanUnit.ofInitial? initial
          some ⟨amount, unit⟩

def ofText? (text : String) : Option Span := read? text.toList

/-! ## Minutes -/

/-- The exact number of minutes. -/
def minutes (s : Span) : Int := s.amount * s.unit.size

/-- A number of minutes that values can hold. -/
def inRange? (n : Int) : Option Int := if Text.inInt64 n then some n else none

/-- The minutes, if values can hold their number. -/
def totalMinutes? (s : Span) : Option Int := inRange? s.minutes

/-- The duration of some minutes in a unit. What is left over is dropped. -/
def ofMinutes (n : Int) (unit : SpanUnit) : Span := ⟨n.tdiv unit.size, unit⟩

/-- The difference of two moments, in the coarsest unit that it is a whole number of. -/
def between (later earlier : Moment) : Span :=
  let n := later.minutesSince earlier
  if n % SpanUnit.days.size = 0 then ofMinutes n .days
  else if n % SpanUnit.hours.size = 0 then ofMinutes n .hours
  else ofMinutes n .minutes

/-- The sum or the difference of two durations in the finer of their units. Each number of
minutes on the way, the negative of the second one too, must be one that values can hold. -/
def combine? (a b : Span) (negate : Bool) : Option Span := do
  let n ← b.totalMinutes?
  let n ← if negate then inRange? (-n) else some n
  let m ← a.totalMinutes?
  let total ← inRange? (m + n)
  some (ofMinutes total (a.unit.finer b.unit))

/-- The most seconds that a moment can be shifted by. -/
def maxShift : Int := 9223372036854775

/-- The seconds of a duration, if a moment can be shifted by so many. -/
def seconds? (s : Span) : Option Int :=
  let n := s.minutes * 60
  if -maxShift ≤ n ∧ n ≤ maxShift then some n else none

end Span

end Verdict
