-- Numbers in a file of settings in object notation.
import Verdict.Decimal.Reading
import Verdict.Settings.Tree
import Verdict.Text.Ascii

namespace Verdict.Settings.Ron

/-! ## Whole numbers -/

/-- The ranges of the whole numbers with a kind behind their digits. -/
def intKinds : List (List Char × Int × Int) :=
  [("i8".toList, -128, 127), ("i16".toList, -32768, 32767),
   ("i32".toList, -2147483648, 2147483647), ("i64".toList, Text.minInt64, Text.maxInt64),
   ("u8".toList, 0, 255), ("u16".toList, 0, 65535), ("u32".toList, 0, 4294967295),
   ("u64".toList, 0, Text.maxIndex)]

/-- The range of a whole number, by what is behind its digits. -/
def intRange? (kind : List Char) : Option (Int × Int) :=
  if kind = [] then some (Text.minInt64, Text.maxIndex)
  else (intKinds.find? (·.1 == kind)).map Prod.snd

/-- The base of a number, and its digits. -/
def baseOf : List Char → Nat × List Char
  | '0' :: 'b' :: rest => (2, rest)
  | '0' :: 'o' :: rest => (8, rest)
  | '0' :: 'x' :: rest => (16, rest)
  | cs => (10, cs)

def isIntChar (c : Char) : Bool := (Text.hexValue? c).isSome || c == '_'

/-- A whole number. Low lines in it do not count, but it does not begin with one. -/
def int? (negative : Bool) (cs : List Char) : Option Int := do
  let (base, cs) := baseOf cs
  let digits := cs.takeWhile isIntChar
  let (low, high) ← intRange? (cs.dropWhile isIntChar)
  let values ← (digits.filter (· != '_')).mapM Text.hexValue?
  let size := values.foldl (fun n d => base * n + d) 0
  let n : Int := if negative then -(size : Int) else size
  if digits.head?.all (· == '_') || !values.all (· < base) then none
  else if low ≤ n ∧ n ≤ high then some n
  else none

/-! ## Numbers with a point -/

/-- The digits of a number, and whether it is kept in 32 bits. -/
def withoutKind (cs : List Char) : List Char × Bool :=
  if "f32".toList.isSuffixOf cs then (cs.dropLast.dropLast.dropLast, true)
  else if "f64".toList.isSuffixOf cs then (cs.dropLast.dropLast.dropLast, false)
  else (cs, false)

/-- The size of a number that is a word or has digits. -/
def size? (cs : List Char) : Option Float :=
  if cs = ['i', 'n', 'f'] then some (Float.ofBits 0x7FF0000000000000)
  else if cs = ['N', 'a', 'N'] then some (Float.ofBits 0x7FF8000000000000)
  else if cs.head?.any fun c => c == '+' || c == '-' then none
  else (Decimal.readNumeral? cs).map Decimal.Numeral.toFloat

def float? (negative : Bool) (cs : List Char) : Option Float :=
  let (digits, short) := withoutKind cs
  (size? digits).map fun size =>
    let x := if negative then -size else size
    if short then x.toFloat32.toFloat else x

/-! ## Numbers -/

/-- A whole number, if it is one in its range, or the nearest number with a point. -/
def number? (cs : List Char) : Option Setting :=
  let (negative, rest) := match cs with
    | '-' :: rest => (true, rest)
    | '+' :: rest => (false, rest)
    | _ => (false, cs)
  match int? negative rest with
  | some n => some (.int n)
  | none => (float? negative rest).map .float

end Verdict.Settings.Ron
