-- Dates and times in text. A text is tried in one fixed form with an
-- offset, then in five forms whose numbers may be short.
import Verdict.Calendar.Moment
import Verdict.Decimal.Power
import Verdict.Text.Integer
import Verdict.Text.Blank

namespace Verdict.Calendar

open Verdict.Text (trimStart)

/-! ## Numbers -/

/-- A number of at most `most` digits, at least one, and what follows it. -/
def number? (most : Nat) (cs : List Char) : Option (Nat × List Char) :=
  let digits := (cs.take most).takeWhile Char.isDigit
  (Text.readDigits? digits).map fun n => (n, cs.drop digits.length)

/-- A number of exactly `count` digits, and what follows it. -/
def exactly? (count : Nat) (cs : List Char) : Option (Nat × List Char) :=
  let digits := cs.take count
  if digits.length = count then
    (Text.readDigits? digits).map fun n => (n, cs.drop count)
  else none

/-- What follows a given character. -/
def after? (c : Char) : List Char → Option (List Char)
  | d :: rest => if d = c then some rest else none
  | [] => none

/-- A year: up to four digits, or a sign and any number of digits. -/
def year? : List Char → Option (Int × List Char)
  | '-' :: rest => (number? rest.length rest).map fun (n, rest) => (-(n : Int), rest)
  | '+' :: rest => (number? rest.length rest).map fun (n, rest) => ((n : Int), rest)
  | cs => (number? 4 cs).map fun (n, rest) => ((n : Int), rest)

/-! ## Parts of a moment -/

structure Parts where
  year : Int := 0
  month : Nat := 0
  day : Nat := 0
  hour : Nat := 0
  minute : Nat := 0
  second : Nat := 0
  nano : Nat := 0
deriving DecidableEq

/-- The moment of the parts, if the calendar and the clock have it. The second 60 is a leap
second. -/
def Parts.moment? (p : Parts) : Option Moment := do
  let date ← Date.ofParts? p.year p.month p.day
  if p.hour < 24 ∧ p.minute < 60 ∧ p.second ≤ 60 then
    let minute := p.hour * 3600 + p.minute * 60
    if p.second = 60 then Moment.ofParts? date (minute + 59) (p.nano + nanos)
    else Moment.ofParts? date (minute + p.second) p.nano
  else none

/-! ## Forms -/

/-- One item of a form. -/
inductive Item where
  | year | month | day | hour | minute | second
  /-- This very character. -/
  | mark (c : Char)
  /-- Any number of blanks. -/
  | blanks
deriving DecidableEq

/-- Reads one item. Blanks may stand before a number. -/
def Item.read? (p : Parts) (cs : List Char) : Item → Option (Parts × List Char)
  | .year => (year? (trimStart cs)).map fun (n, rest) => ({ p with year := n }, rest)
  | .month => (number? 2 (trimStart cs)).map fun (n, rest) => ({ p with month := n }, rest)
  | .day => (number? 2 (trimStart cs)).map fun (n, rest) => ({ p with day := n }, rest)
  | .hour => (number? 2 (trimStart cs)).map fun (n, rest) => ({ p with hour := n }, rest)
  | .minute => (number? 2 (trimStart cs)).map fun (n, rest) => ({ p with minute := n }, rest)
  | .second => (number? 2 (trimStart cs)).map fun (n, rest) => ({ p with second := n }, rest)
  | .mark c => (after? c cs).map fun rest => (p, rest)
  | .blanks => some (p, trimStart cs)

/-- Reads the items one after another, to the end of the text. -/
def readItems? (p : Parts) (cs : List Char) : List Item → Option Parts
  | [] => if cs = [] then some p else none
  | item :: items =>
    match item.read? p cs with
    | some (p, rest) => readItems? p rest items
    | none => none

def readForm? (cs : List Char) (form : List Item) : Option Moment :=
  (readItems? {} cs form).bind Parts.moment?

/-- Year, month and day with hyphens between them. -/
def dateItems : List Item := [.year, .mark '-', .month, .mark '-', .day]

/-- The forms in the order in which they are tried. -/
def forms : List (List Item) :=
  [dateItems ++ [.blanks, .hour, .mark ':', .minute, .mark ':', .second],
   dateItems ++ [.mark 'T', .hour, .mark ':', .minute, .mark ':', .second],
   dateItems ++ [.blanks, .hour, .mark ':', .minute],
   dateItems,
   [.month, .mark '/', .day, .mark '/', .year]]

/-! ## The fixed form with an offset -/

/-- The offset from the time of Greenwich: `Z`, or hours and minutes below 24 hours. It must be
right, but it is not used. -/
def isOffset : List Char → Bool
  | [] => false
  | ['Z'] => true
  | ['z'] => true
  | sign :: rest =>
    if sign = '+' ∨ sign = '-' ∨ sign = '\u2212' then
      match exactly? 2 rest with
      | some (hours, ':' :: rest) =>
        match exactly? 2 rest with
        | some (minutes, []) => decide (hours < 24 ∧ minutes < 60)
        | _ => false
      | _ => false
    else false

/-- The nanoseconds of a fraction. Digits after the ninth are dropped. -/
def fraction? : List Char → Option (Nat × List Char)
  | '.' :: rest =>
    let digits := rest.takeWhile Char.isDigit
    (Text.readDigits? (digits.take 9)).map fun n =>
      (n * Decimal.tenTo (9 - (digits.take 9).length), rest.dropWhile Char.isDigit)
  | cs => some (0, cs)

/-- A date, one of `T`, `t` and a space, a time, and an offset, each number in full width. -/
def readFixed? (cs : List Char) : Option Moment := do
  let (year, cs) ← exactly? 4 cs
  let cs ← after? '-' cs
  let (month, cs) ← exactly? 2 cs
  let cs ← after? '-' cs
  let (day, cs) ← exactly? 2 cs
  let cs ← match cs with
    | c :: rest => if c = 'T' ∨ c = 't' ∨ c = ' ' then some rest else none
    | [] => none
  let (hour, cs) ← exactly? 2 cs
  let cs ← after? ':' cs
  let (minute, cs) ← exactly? 2 cs
  let cs ← after? ':' cs
  let (second, cs) ← exactly? 2 cs
  let (nano, cs) ← fraction? cs
  if isOffset cs then
    Parts.moment? ⟨year, month, day, hour, minute, second, nano⟩
  else none

/-! ## Any form -/

def read? (cs : List Char) : Option Moment :=
  match readFixed? cs with
  | some m => some m
  | none => forms.findSome? (readForm? cs)

/-- The moment that a text stands for. Blanks at the ends are left out. -/
def ofText? (text : String) : Option Moment := read? (Text.trim text.toList)

end Verdict.Calendar
