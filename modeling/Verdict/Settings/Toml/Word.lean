-- Words in a file of settings: truth values, numbers, dates and times.
import Verdict.Settings.Toml.DateTime
import Verdict.Settings.Tree
import Verdict.Text.Ascii

namespace Verdict.Settings.Toml

/-! ## Numbers -/

/-- The text without the low lines in it, if each of them stands between two digits. -/
def withoutLowLines? (isDigit : Char → Bool) : List Char → Option (List Char)
  | a :: '_' :: b :: rest =>
    if isDigit a && isDigit b then (withoutLowLines? isDigit (b :: rest)).map (a :: ·) else none
  | '_' :: _ => none
  | [_, '_'] => none
  | c :: rest => (withoutLowLines? isDigit rest).map (c :: ·)
  | [] => some []

/-- A number has no needless zero at its start. -/
def startsWell : List Char → Bool
  | '0' :: c :: _ => !c.isDigit
  | _ => true

def withoutSign : List Char → List Char
  | '-' :: rest => rest
  | '+' :: rest => rest
  | cs => cs

/-- A number in another base than ten, after the letter of the base. -/
def based? (base : Nat) (digits : List Char) : Option Setting := do
  let digits ← withoutLowLines? (fun c => (Text.hexValue? c).isSome) digits
  let values ← digits.mapM Text.hexValue?
  let n := values.foldl (fun n d => base * n + d) 0
  if digits ≠ [] ∧ values.all (· < base) ∧ (n : Int) ≤ Text.maxInt64 then some (.int n) else none

/-- A whole number within 64 bits. -/
def int? (cs : List Char) : Option Setting :=
  if startsWell (withoutSign cs) then (Text.readInt? cs).map .int else none

/-- The words for numbers that have no digits. -/
def special? (cs : List Char) : Option Setting :=
  let size : Option Float :=
    if withoutSign cs = ['i', 'n', 'f'] then some (Float.ofBits 0x7FF0000000000000)
    else if withoutSign cs = ['n', 'a', 'n'] then some (Float.ofBits 0x7FF8000000000000)
    else none
  size.map fun x => .float (if cs.head? = some '-' then -x else x)

/-- A finite number with a point or an exponent. There are digits on both sides of the point. -/
def float? (cs : List Char) : Option Setting := do
  let n ← Decimal.readNumeral? cs
  if n.whole = [] ∨ startsWell n.whole = false ∨ (cs.contains '.' ∧ n.fraction = []) then none
  else if Decimal.isFinite n.toFloat then some (.float n.toFloat)
  else none

def number? (cs : List Char) : Option Setting :=
  match cs with
  | '0' :: 'x' :: digits => based? 16 digits
  | '0' :: 'o' :: digits => based? 8 digits
  | '0' :: 'b' :: digits => based? 2 digits
  | _ => do
    let plain ← withoutLowLines? Char.isDigit cs
    if plain.any fun c => c == '.' || c == 'e' || c == 'E' then float? plain
    else (int? plain).or (special? plain)

/-! ## All words -/

/-- The value of a word that stands in no quotes. -/
def word? (cs : List Char) : Option Setting :=
  if cs = ['t', 'r', 'u', 'e'] then some (.bool true)
  else if cs = ['f', 'a', 'l', 's', 'e'] then some (.bool false)
  else match dateTime? cs with
    | some text => some (.text text)
    | none => number? cs

end Verdict.Settings.Toml
