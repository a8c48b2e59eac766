-- Numbers with a fixed number of decimal places.
import Verdict.Decimal.Binary
import Verdict.Text.Integer

namespace Verdict.Decimal

/-- The natural number nearest to a quotient. Of two that are equally near, the even one. -/
def roundDiv (num den : Nat) : Nat :=
  let q := num / den
  let twice := 2 * (num % den)
  if twice < den then q
  else if den < twice then q + 1
  else q + q % 2

/-- The digits of a whole number of units, with the point before the last `places` of them. -/
def pointed (places units : Nat) : List Char :=
  let digits := Text.padded (places + 1) units
  let whole := digits.take (digits.length - places)
  if places = 0 then whole else whole ++ '.' :: digits.drop (digits.length - places)

/-- The exact value rounded to `places` digits after the point. A zero keeps its sign. -/
def fixed (places : Nat) (x : Float) : List Char :=
  let size :=
    if isFinite x then
      let b := Binary.ofFloat x
      pointed places (roundDiv (b.num * tenTo places) b.den)
    else if isInfinite x then ['i', 'n', 'f']
    else ['N', 'a', 'N']
  if isNegative x && (isFinite x || isInfinite x) then '-' :: size else size

/-! ## The rounding -/

/-- The rounded quotient is within half a unit of the exact one. -/
theorem roundDiv_near (num den : Nat) (h : 0 < den) :
    2 * (roundDiv num den * den) ≤ 2 * num + den ∧
      2 * num ≤ 2 * (roundDiv num den * den) + den := by
  have e : den * (num / den) + num % den = num := Nat.div_add_mod num den
  have l : num % den < den := Nat.mod_lt _ h
  simp only [roundDiv]
  generalize num / den = q at *
  generalize num % den = r at *
  have hq : (q + 1) * den = den * q + den := by rw [Nat.add_mul, Nat.mul_comm]; simp
  have hq0 : q * den = den * q := Nat.mul_comm ..
  generalize den * q = p at *
  split
  · omega
  · split
    · omega
    · rcases Nat.mod_two_eq_zero_or_one q with hm | hm <;> rw [hm]
      · rw [Nat.add_zero]; omega
      · omega

end Verdict.Decimal
