-- The settings of a file in JSON for people: its tokens, read one by one
-- into a value.
import Verdict.Decimal.Reading
import Verdict.Settings.Json5.Token
import Verdict.Settings.Tree

namespace Verdict.Settings.Json5

/-! ## Words -/

/-- The largest number with hexadecimal digits. -/
def maxHex : Nat := 4294967295

/-- A finite number with a point or an exponent. -/
def float? (cs : List Char) : Option Setting := do
  let n ← Decimal.readNumeral? cs
  if Decimal.isFinite n.toFloat then some (.float n.toFloat) else none

/-- A number has no needless zero at its start. -/
def startsWell : List Char → Bool
  | '0' :: c :: _ => !c.isDigit
  | _ => true

def withoutSign : List Char → List Char
  | '-' :: rest => rest
  | '+' :: rest => rest
  | cs => cs

/-- The number with hexadecimal digits. It has no sign. -/
def hex? (digits : List Char) : Option Setting := do
  let n ← Text.hexNumber? digits
  if digits ≠ [] ∧ n ≤ maxHex then some (.int n) else none

def number? (cs : List Char) : Option Setting :=
  match cs with
  | '0' :: 'x' :: digits => hex? digits
  | '0' :: 'X' :: digits => hex? digits
  | _ =>
    if !startsWell (withoutSign cs) then none
    else if cs.any fun c => c == '.' || c == 'e' || c == 'E' then float? cs
    else (Text.readInt? cs).map .int

/-- The value of a word. -/
def value? (cs : List Char) : Option Setting :=
  match String.ofList cs with
  | "null" => some .missing
  | "true" => some (.bool true)
  | "false" => some (.bool false)
  | "Infinity" => some (.float (Float.ofBits 0x7FF0000000000000))
  | "-Infinity" => some (.float (Float.ofBits 0xFFF0000000000000))
  | "NaN" | "-NaN" => some (.float (Float.ofBits 0x7FF8000000000000))
  | _ => number? cs

/-! ## Places -/

/-- What goes around a value: it is an item after those in front of it, the last first, or the
value of a name. -/
inductive Hole where
  | item (before : List Setting)
  | member (before : List (String × Setting)) (key : String)

/-- What was read so far, by what may come next. -/
inductive Place where
  | value (holes : List Hole)
  | item (holes : List Hole) (items : List Setting)
  | nextItem (holes : List Hole) (items : List Setting)
  | name (holes : List Hole) (members : List (String × Setting))
  | colon (holes : List Hole) (members : List (String × Setting)) (key : String)
  | nextMember (holes : List Hole) (members : List (String × Setting))
  | done (s : Setting)

namespace Place

/-- A value is complete. Of members with one name the last stays. -/
def fill (s : Setting) : List Hole → Place
  | [] => .done s
  | .item before :: holes => .nextItem holes (s :: before)
  | .member before key :: holes => .nextMember holes (Keyed.insert key s before)

/-- A value begins, or is complete at once. -/
def begin? (holes : List Hole) : Token → Option Place
  | .string s => some (fill (.text s) holes)
  | .word cs => (Json5.value? cs).map fun s => fill s holes
  | .leftBracket => some (.item holes [])
  | .leftBrace => some (.name holes [])
  | _ => none

/-- The place after a token. A comma may stand behind the last item and the last member. -/
def step? : Place → Token → Option Place
  | .value holes, t => begin? holes t
  | .item holes items, .rightBracket => some (fill (.array items.reverse) holes)
  | .item holes items, t => begin? (.item items :: holes) t
  | .nextItem holes items, .comma => some (.item holes items)
  | .nextItem holes items, .rightBracket => some (fill (.array items.reverse) holes)
  | .name holes members, .string s => some (.colon holes members s)
  | .name holes members, .word cs => (name? cs).map (.colon holes members)
  | .name holes members, .rightBrace => some (fill (.table members) holes)
  | .colon holes members key, .colon => some (.value (.member members key :: holes))
  | .nextMember holes members, .comma => some (.name holes members)
  | .nextMember holes members, .rightBrace => some (fill (.table members) holes)
  | _, _ => none

end Place

/-- The settings of a text, which is an object. -/
def read? (text : String) : Option (List (String × Setting)) := do
  match ← (← tokens? text.toList).foldlM Place.step? (.value []) with
  | .done (.table members) => some members
  | _ => none

end Verdict.Settings.Json5
