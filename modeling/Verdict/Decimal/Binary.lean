-- The exact value of a floating-point number: a natural number times a
-- power of two. Texts of numbers are made from it, never from rounded
-- arithmetic.
import Verdict.Decimal.Power
import Verdict.Text.Integer

namespace Verdict.Decimal

/-- A finite number without its sign, `mantissa * 2 ^ exponent`. -/
structure Binary where
  mantissa : Nat
  exponent : Int
  /-- The gap to the number below is half the gap to the number above. -/
  narrowBelow : Bool
deriving DecidableEq, Repr

/-- The number is below zero, or is the zero with a sign. -/
def isNegative (x : Float) : Bool := decide (twoTo 63 ≤ x.toBits.toNat)

/-- The eleven bits of the exponent. -/
def exponentBits (x : Float) : Nat := x.toBits.toNat / twoTo 52 % twoTo 11

/-- The fifty-two bits after the point. -/
def fractionBits (x : Float) : Nat := x.toBits.toNat % twoTo 52

/-- Neither an infinity nor a failed result. -/
def isFinite (x : Float) : Bool := exponentBits x != 2047

/-- Exceeds every finite number in size. -/
def isInfinite (x : Float) : Bool := exponentBits x == 2047 && fractionBits x == 0

/-- The value of a finite number without its sign. -/
def Binary.ofFloat (x : Float) : Binary :=
  if exponentBits x = 0 then ⟨fractionBits x, -1074, false⟩
  else ⟨twoTo 52 + fractionBits x, (exponentBits x : Int) - 1075,
    fractionBits x == 0 && decide (1 < exponentBits x)⟩

namespace Binary

/-- The value as a quotient of natural numbers. -/
def num (x : Binary) : Nat := x.mantissa * twoTo x.exponent.toNat

def den (x : Binary) : Nat := twoTo (-x.exponent).toNat

theorem den_pos (x : Binary) : 0 < x.den := twoTo_pos _

end Binary

/-- The largest whole number that is not above a finite number. -/
def floor (x : Float) : Int :=
  let b := Binary.ofFloat x
  if isNegative x then -(((b.num + b.den - 1) / b.den : Nat) : Int)
  else ((b.num / b.den : Nat) : Int)

/-- The floor of a number, held inside the range of 64 bits. A failed result counts as 0. -/
def floorInt64 (x : Float) : Int :=
  if isFinite x then max Text.minInt64 (min Text.maxInt64 (floor x))
  else if isInfinite x then (if isNegative x then Text.minInt64 else Text.maxInt64)
  else 0

end Verdict.Decimal
