-- Decimal numbers in text, read to the nearest floating-point number.
import Verdict.Decimal.Binary
import Verdict.Text.Integer

namespace Verdict.Decimal

/-- A decimal number in text: a sign, digits before and after the point, and an exponent. -/
structure Numeral where
  negative : Bool
  whole : List Char
  fraction : List Char
  exponent : Int
deriving DecidableEq, Repr

/-- The exponent after its mark: digits after an optional sign, and nothing else. -/
def readExponent? : List Char → Option Int
  | '-' :: rest => (Text.readDigits? rest).map fun n => -(n : Int)
  | '+' :: rest => (Text.readDigits? rest).map Int.ofNat
  | cs => (Text.readDigits? cs).map Int.ofNat

/-- The rest of a numeral after its digits: nothing, or a mark and an exponent. -/
def readTail? : List Char → Option Int
  | [] => some 0
  | 'e' :: rest => readExponent? rest
  | 'E' :: rest => readExponent? rest
  | _ => none

/-- A numeral without its sign. There is a digit before the point or after it. -/
def readUnsigned? (negative : Bool) (cs : List Char) : Option Numeral := do
  let whole := cs.takeWhile Char.isDigit
  let rest := cs.dropWhile Char.isDigit
  let (fraction, tail) := match rest with
    | '.' :: after => (after.takeWhile Char.isDigit, after.dropWhile Char.isDigit)
    | _ => ([], rest)
  if whole = [] ∧ fraction = [] then none
  else (readTail? tail).map fun exponent => ⟨negative, whole, fraction, exponent⟩

/-- A numeral, with an optional sign before it. -/
def readNumeral? : List Char → Option Numeral
  | '-' :: rest => readUnsigned? true rest
  | '+' :: rest => readUnsigned? false rest
  | cs => readUnsigned? false cs

namespace Numeral

/-- The digits as one number, the point left out. -/
def mantissa (n : Numeral) : Nat := Nat.ofDigitChars 10 (n.whole ++ n.fraction) 0

/-- The power of ten that `mantissa` is multiplied by. -/
def power (n : Numeral) : Int := n.exponent - n.fraction.length

/-- The nearest floating-point number, an even one of two equally near. A value of more than
310 digits before the point is infinite, and one with 400 zeros after the point is zero. -/
def toFloat (n : Numeral) : Float :=
  let digits := (Text.natDigits n.mantissa).length
  let size : Float :=
    if n.mantissa = 0 then 0
    else if 310 < n.power + digits then Float.ofBits 0x7FF0000000000000
    else if n.power + digits < -400 then 0
    else Float.ofScientific n.mantissa (decide (n.power < 0)) n.power.natAbs
  if n.negative then -size else size

end Numeral

/-- The number that a text stands for. Blanks at the ends are left out, there must be a digit,
and the number must be finite. -/
def readFloat? (text : String) : Option Float :=
  match readNumeral? (Text.trim text.toList) with
  | none => none
  | some n => if isFinite n.toFloat then some n.toFloat else none

end Verdict.Decimal
