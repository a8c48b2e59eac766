-- JSON values, and their text: compact, the members of an object in the
-- order in which the value holds them.
import Verdict.Decimal.Shortest

namespace Verdict

/-- A JSON value. Whole numbers and numbers with a point or an exponent are kept apart. -/
inductive Json where
  | null
  | bool (b : Bool)
  | int (n : Int)
  | float (x : Float)
  | str (s : String)
  | arr (items : List Json)
  | obj (fields : List (String × Json))
deriving Inhabited

namespace Json

/-! ## Text -/

/-- A character of a string as it stands between the quotes: controls are escaped, and all
else but the quote and the backslash stands for itself. -/
def escaped (c : Char) : List Char :=
  match c with
  | '"' => ['\\', '"']
  | '\\' => ['\\', '\\']
  | '\x08' => ['\\', 'b']
  | '\x0c' => ['\\', 'f']
  | '\n' => ['\\', 'n']
  | '\r' => ['\\', 'r']
  | '\t' => ['\\', 't']
  | c =>
    if c.toNat < 0x20 then
      ['\\', 'u', '0', '0', Nat.digitChar (c.toNat / 16), Nat.digitChar (c.toNat % 16)]
    else [c]

def stringText (s : String) : List Char := ['"'] ++ s.toList.flatMap escaped ++ ['"']

/-- The shortest text of a number, always with a point or an exponent. The first digit stands
for `10 ^ e`; from `e = -5` to `e = 15` there is no exponent. -/
def floatText (x : Float) : List Char :=
  let b := Decimal.Binary.ofFloat x
  Decimal.signed x <|
    if b.mantissa = 0 then ['0', '.', '0']
    else
      let d := Decimal.shortest b
      let e := ((Text.natDigits d.digits).length : Int) - 1 + d.exponent
      if -5 ≤ e ∧ e ≤ 15 then Decimal.plain true d else Decimal.scientific d

mutual

/-- The compact text of a value. -/
def render : Json → List Char
  | .null => ['n', 'u', 'l', 'l']
  | .bool true => ['t', 'r', 'u', 'e']
  | .bool false => ['f', 'a', 'l', 's', 'e']
  | .int n => Text.intDigits n
  | .float x => floatText x
  | .str s => stringText s
  | .arr [] => ['[', ']']
  | .arr (item :: items) => '[' :: (render item ++ renderItems items ++ [']'])
  | .obj [] => ['\x7b', '\x7d']
  | .obj (field :: fields) => '\x7b' :: (renderField field ++ renderFields fields ++ ['\x7d'])

def renderItems : List Json → List Char
  | [] => []
  | item :: items => ',' :: (render item ++ renderItems items)

def renderField : String × Json → List Char
  | (key, value) => stringText key ++ ':' :: render value

def renderFields : List (String × Json) → List Char
  | [] => []
  | field :: fields => ',' :: (renderField field ++ renderFields fields)

end

def text (j : Json) : String := String.ofList j.render

/-- Null for nothing. -/
def ofOption {α : Type} (write : α → Json) : Option α → Json
  | none => .null
  | some a => write a

/-! ## Values in rules -/

/-- The text of a value where rules need a text. A string is its own text, and null has none. -/
def plainText? : Json → Option String
  | .null => none
  | .str s => some s
  | j => some j.text

end Json

end Verdict
