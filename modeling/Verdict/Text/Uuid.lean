-- Random ids: 128 bits in hexadecimal digits, in five groups.
import Verdict.Text.Integer

namespace Verdict.Text

/-- The two hexadecimal digits of a byte. -/
def hexByte (b : Nat) : List Char := [Nat.digitChar (b / 16 % 16), Nat.digitChar (b % 16)]

/-- Marks the bytes as random: the version 4 and the variant of the ids stand in fixed bits. -/
def marked (bytes : List Nat) : List Nat :=
  bytes.mapIdx fun i b => if i = 6 then 64 + b % 16 else if i = 8 then 128 + b % 64 else b

/-- The id of sixteen bytes. -/
def uuid (bytes : List Nat) : String :=
  let digits := (marked bytes).flatMap hexByte
  String.ofList (digits.take 8 ++ '-' :: (digits.drop 8).take 4 ++ '-' :: (digits.drop 12).take 4
    ++ '-' :: (digits.drop 16).take 4 ++ '-' :: digits.drop 20)

end Verdict.Text
