-- Numbers in JSON text: their form, and the value that a form is read to.
import Verdict.Json.Value
import Verdict.Decimal.Reading

namespace Verdict.Json

/-- A number as it is written. -/
structure NumberText where
  negative : Bool
  whole : List Char
  /-- The digits after the point, if there is one. -/
  fraction : Option (List Char)
  /-- The sign and the digits of the exponent, if there is one. -/
  exponent : Option (Bool × List Char)
deriving DecidableEq, Repr

namespace NumberText

/-! ## The form -/

def allDigits (cs : List Char) : Bool := cs != [] && cs.all Char.isDigit

/-- The exponent after its mark. -/
def exponent? : List Char → Option (Bool × List Char)
  | '-' :: rest => if allDigits rest then some (true, rest) else none
  | '+' :: rest => if allDigits rest then some (false, rest) else none
  | cs => if allDigits cs then some (false, cs) else none

/-- What may follow the digits: nothing, or a mark and an exponent. -/
def tail? : List Char → Option (Option (Bool × List Char))
  | [] => some none
  | c :: rest => if c = 'e' ∨ c = 'E' then (exponent? rest).map some else none

/-- A number without its sign. No zero stands before other digits. -/
def unsigned? (negative : Bool) (cs : List Char) : Option NumberText :=
  let whole := cs.takeWhile Char.isDigit
  if whole = [] ∨ (whole.head? = some '0' ∧ whole ≠ ['0']) then none
  else match cs.dropWhile Char.isDigit with
    | '.' :: rest =>
      let fraction := rest.takeWhile Char.isDigit
      if fraction = [] then none
      else (tail? (rest.dropWhile Char.isDigit)).map fun e => ⟨negative, whole, some fraction, e⟩
    | rest => (tail? rest).map fun e => ⟨negative, whole, none, e⟩

def ofChars? : List Char → Option NumberText
  | '-' :: rest => unsigned? true rest
  | cs => unsigned? false cs

/-! ## The value -/

/-- Reads digits on as long as the number fits 64 bits. The rest is what was not read. -/
def absorb (significand : Nat) : List Char → Nat × List Char
  | [] => (significand, [])
  | c :: rest =>
    let next := significand * 10 + (c.toNat - 48)
    if next ≤ Text.maxIndex then absorb next rest else (significand, c :: rest)

/-- A power of ten as a floating-point number. -/
def powerOfTen (n : Nat) : Float := Float.ofScientific 1 false n

/-- The significand times a power of ten, in one multiplication or division by a power of up
to 308; smaller numbers are divided by the power 308 first. Nothing if it is infinite. -/
def scaled? (significand : Nat) (exponent : Int) : Option Float :=
  let f := Float.ofNat significand
  if significand = 0 then some f
  else if 308 < exponent then none
  else if 0 ≤ exponent then
    let x := f * powerOfTen exponent.toNat
    if Decimal.isFinite x then some x else none
  else if -308 ≤ exponent then some (f / powerOfTen (-exponent).toNat)
  else if -616 ≤ exponent then some (f / powerOfTen 308 / powerOfTen (-exponent - 308).toNat)
  else some 0

/-- The number as a floating-point number. Digits that do not fit 64 bits any more are left
out: before the point each counts as a power of ten, after it none has an effect. -/
def float? (n : NumberText) : Option Float :=
  let (significand, wholeLeft) := absorb 0 n.whole
  let fraction := n.fraction.getD []
  let (significand, fractionLeft) := absorb significand fraction
  let start : Int := wholeLeft.length - ((fraction.length : Int) - fractionLeft.length)
  let size := match n.exponent with
    | none => scaled? significand start
    | some (down, digits) =>
      let e := Nat.ofDigitChars 10 digits 0
      scaled? significand (if down then start - e else start + e)
  size.map fun x => if n.negative then -x else x

/-- The value of a number. A whole number that fits 64 bits, with or without a sign, stays
whole; a zero with a minus sign does not. -/
def value? (n : NumberText) : Option Json :=
  let whole := Nat.ofDigitChars 10 n.whole 0
  let isWhole := n.fraction.isNone && n.exponent.isNone
  if isWhole && !n.negative && decide (whole ≤ Text.maxIndex) then some (.int whole)
  else if isWhole && n.negative && decide (0 < whole ∧ Text.minInt64 ≤ -(whole : Int)) then
    some (.int (-(whole : Int)))
  else n.float?.map .float

end NumberText

end Verdict.Json
