-- Dates and times of day in a file of settings, brought to one usual
-- form of text.
import Verdict.Calendar.Date
import Verdict.Text.Integer

namespace Verdict.Settings.Toml

/-! ## The parts -/

/-- The number of the digits, if it lies in a range. -/
def inRange? (low high : Nat) (digits : List Char) : Option Nat := do
  let n ← Text.readDigits? digits
  if low ≤ n ∧ n ≤ high then some n else none

/-- A date, and what follows it. -/
def date? : List Char → Option (List Char × List Char)
  | a :: b :: c :: d :: '-' :: m :: n :: '-' :: e :: f :: rest => do
    let year ← Text.readDigits? [a, b, c, d]
    let month ← Text.readDigits? [m, n]
    let day ← Text.readDigits? [e, f]
    if isDate year month day then some ([a, b, c, d, '-', m, n, '-', e, f], rest) else none
  | _ => none

/-- The seconds after the minutes, and what follows them. There need be none. -/
def seconds? : List Char → Option (List Char × List Char)
  | ':' :: a :: b :: rest => do
    let _ ← inRange? 0 60 [a, b]
    some ([':', a, b], rest)
  | rest => some ([], rest)

/-- The part of a second that digits tell: nine of them count, and none of the zeros at the
end. -/
def fractionText (digits : List Char) : List Char :=
  match ((digits.take 9).reverse.dropWhile (· == '0')).reverse with
  | [] => []
  | digits => '.' :: digits

/-- A fraction of a second, and what follows it. -/
def fraction? : List Char → Option (List Char × List Char)
  | '.' :: rest =>
    match rest.takeWhile Char.isDigit with
    | [] => none
    | digits => some (fractionText digits, rest.dropWhile Char.isDigit)
  | rest => some ([], rest)

/-- A time of day, and what follows it. Only a time with seconds has a fraction. -/
def time? : List Char → Option (List Char × List Char)
  | a :: b :: ':' :: c :: d :: rest => do
    let _ ← inRange? 0 23 [a, b]
    let _ ← inRange? 0 59 [c, d]
    let (seconds, after) ← seconds? rest
    let (fraction, after) ← if after.length < rest.length then fraction? after else some ([], after)
    some ([a, b, ':', c, d] ++ seconds ++ fraction, after)
  | _ => none

/-- How far the time is from that of Greenwich. Nothing need be told. -/
def offset? : List Char → Option (List Char)
  | [] => some []
  | ['Z'] | ['z'] => some ['Z']
  | [sign, a, b, ':', c, d] => do
    let hours ← inRange? 0 23 [a, b]
    let minutes ← inRange? 0 59 [c, d]
    if sign = '+' ∨ (sign = '-' ∧ hours + minutes = 0) then some ['+', a, b, ':', c, d]
    else if sign = '-' then some ['-', a, b, ':', c, d]
    else none
  | _ => none

/-! ## The whole -/

/-- The text of a date, a time of day, or both with a `T`, a `t` or a blank between them. -/
def dateTime? (cs : List Char) : Option String :=
  match date? cs with
  | some (date, []) => some (String.ofList date)
  | some (date, mark :: rest) =>
    if mark = 'T' ∨ mark = 't' ∨ mark = ' ' then do
      let (time, rest) ← time? rest
      let offset ← offset? rest
      some (String.ofList (date ++ ['T'] ++ time ++ offset))
    else none
  | none =>
    match time? cs with
    | some (time, []) => some (String.ofList time)
    | _ => none

end Verdict.Settings.Toml
