-- The fewest digits that read back to a given number, and the nearest
-- to it among those.
import Verdict.Decimal.Binary
import Verdict.Text.Integer

namespace Verdict.Decimal

/-- The decimal number `digits * 10 ^ exponent`. -/
structure Dec where
  digits : Nat
  exponent : Int
deriving DecidableEq, Repr

/-! ## Comparing without rounding -/

/-- Compares `a * 10 ^ i` with `n * 2 ^ j`. -/
def compareScaled (a : Nat) (i : Int) (n : Nat) (j : Int) : Ordering :=
  compare (a * tenTo i.toNat * twoTo (-j).toNat) (n * twoTo j.toNat * tenTo (-i).toNat)

/-- The decimal lies among the reals that round to the number: between the middles of the gaps
below and above it, the middles included if the mantissa is even. -/
def Binary.readsBack (x : Binary) (d : Dec) : Bool :=
  let low := if x.narrowBelow then 4 * x.mantissa - 1 else 4 * x.mantissa - 2
  let high := 4 * x.mantissa + 2
  let even := x.mantissa % 2 == 0
  let toLow := compareScaled d.digits d.exponent low (x.exponent - 2)
  let toHigh := compareScaled d.digits d.exponent high (x.exponent - 2)
  (toLow == .gt || (even && toLow == .eq)) && (toHigh == .lt || (even && toHigh == .eq))

/-! ## The search -/

/-- The number of decimal digits before the point; zero or negative for numbers below one
tenth. The least `k` with the value below `10 ^ k`: no number below one is a power of ten. -/
def scale (x : Binary) : Int :=
  if x.den ≤ x.num then ((Text.natDigits (x.num / x.den)).length : Int)
  else 1 - ((Text.natDigits (x.den / x.num)).length : Int)

/-- Of two decimals around the number on one grid, the one that reads back; of two that do,
the nearer; of two equally near, the even one. -/
def pick (x : Binary) (exponent : Int) : Option Dec :=
  let below := x.num * tenTo (-exponent).toNat / (x.den * tenTo exponent.toNat)
  let down : Dec := ⟨below, exponent⟩
  let up : Dec := ⟨below + 1, exponent⟩
  match x.readsBack down, x.readsBack up with
  | false, false => none
  | true, false => some down
  | false, true => some up
  | true, true =>
    match compareScaled (2 * below + 1) exponent (2 * x.mantissa) x.exponent with
    | .gt => some down
    | .lt => some up
    | .eq => if below % 2 = 0 then some down else some up

/-- The same decimal without zeros at the end of its digits. `steps` bounds their number. -/
def Dec.stripped : Nat → Dec → Dec
  | 0, d => d
  | steps + 1, d =>
    if d.digits % 10 = 0 ∧ d.digits ≠ 0 then stripped steps ⟨d.digits / 10, d.exponent + 1⟩ else d

/-- The number written out in full, where no shorter decimal is found. -/
def exact (x : Binary) : Dec :=
  ⟨x.mantissa * twoTo x.exponent.toNat * Nat.pow 5 (-x.exponent).toNat,
    -((-x.exponent).toNat : Int)⟩

/-- The shortest decimal that reads back to a number other than zero. -/
def shortest (x : Binary) : Dec :=
  let top := scale x
  let found := (List.range 17).findSome? fun n : Nat => pick x (top - ((n : Int) + 1))
  (found.getD (exact x)).stripped 20

/-! ## Texts -/

/-- The digits of a decimal with a point and no exponent. A whole number gets `.0` if `tail`. -/
def plain (tail : Bool) (d : Dec) : List Char :=
  let digits := Text.natDigits d.digits
  let point := (digits.length : Int) + d.exponent
  if 0 ≤ d.exponent then
    digits ++ List.replicate d.exponent.toNat '0' ++ (if tail then ['.', '0'] else [])
  else if 0 < point then
    digits.take point.toNat ++ '.' :: digits.drop point.toNat
  else
    '0' :: '.' :: (List.replicate (-point).toNat '0' ++ digits)

/-- One digit, a point, the other digits, and the exponent with its sign. -/
def scientific (d : Dec) : List Char :=
  let digits := Text.natDigits d.digits
  let exponent := (digits.length : Int) - 1 + d.exponent
  let body := match digits with
    | first :: second :: rest => first :: '.' :: second :: rest
    | _ => digits
  body ++ 'e' :: (if exponent < 0 then '-' else '+') :: Text.natDigits exponent.natAbs

/-- The sign of a number before the text of its size. -/
def signed (x : Float) (size : List Char) : List Char := if isNegative x then '-' :: size else size

/-- The shortest text with a point and no exponent; no point in a whole number. -/
def plainText (x : Float) : List Char :=
  if !isFinite x then (if isInfinite x then signed x ['i', 'n', 'f'] else ['N', 'a', 'N'])
  else
    let b := Binary.ofFloat x
    signed x (if b.mantissa = 0 then ['0'] else plain false (shortest b))

end Verdict.Decimal
