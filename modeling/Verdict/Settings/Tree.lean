-- Trees of settings: tables of named settings, rows of settings, and
-- single values. A later setting is laid over an earlier one, table by
-- table.
import Verdict.Decimal.Reading
import Verdict.Decimal.Shortest
import Verdict.Keyed
import Verdict.Text.LowerCase

namespace Verdict

inductive Setting where
  /-- A place that is there and holds nothing. -/
  | missing
  | bool (b : Bool)
  | int (n : Int)
  | float (x : Float)
  | text (s : String)
  | array (items : List Setting)
  /-- The settings of a table in the order of their names. -/
  | table (entries : List (String × Setting))
deriving Inhabited

namespace Setting

/-! ## Tables -/

/-- The settings of a table. All else has none. -/
def entries : Setting → List (String × Setting)
  | table es => es
  | _ => []

def child? (s : Setting) (name : String) : Option Setting := Keyed.find? name s.entries

/-- Puts a setting under a name. What is no table becomes one. -/
def put (s : Setting) (name : String) (value : Setting) : Setting :=
  table (Keyed.insert name value s.entries)

/-- The items of an array. All else has none. -/
def items : Setting → List Setting
  | array xs => xs
  | _ => []

/-- What is given for a field of a group: by name in a table, by place in an array. -/
def field? (name : String) (place : Nat) : Setting → Option Setting
  | table es => Keyed.find? name es
  | array xs => xs[place]?
  | _ => none

/-- A table or an array, which may give the fields of a group. -/
def isGroup : Setting → Bool
  | table _ | array _ => true
  | _ => false

/-! ## Layers -/

mutual

/-- Lays the second setting over the first. The settings of a table are laid over those of the
same names, and what is no table has none; all else takes the place of what is there. -/
def overlay (base : Setting) : Setting → Setting
  | table es => overlayEntries (table base.entries) es
  | array xs => array xs
  | missing => missing
  | bool b => bool b
  | int n => int n
  | float x => float x
  | text s => text s

def overlayEntry (base : Setting) : String × Setting → Setting
  | (name, value) => base.put name (overlay ((base.child? name).getD missing) value)

def overlayEntries (base : Setting) : List (String × Setting) → Setting
  | [] => base
  | e :: es => overlayEntries (overlayEntry base e) es

end

/-! ## Values -/

def trueWords : List String := ["1", "true", "on", "yes"]

def falseWords : List String := ["0", "false", "off", "no"]

/-- A text in small letters. -/
def small (s : String) : String := String.ofList (Text.lower s.toList)

/-- A truth value, or a number or a word that stands for one. -/
def bool? : Setting → Option Bool
  | bool b => some b
  | int n => some (n != 0)
  | float x => some (!(x == 0))
  | text s =>
    if trueWords.contains (small s) then some true
    else if falseWords.contains (small s) then some false
    else none
  | missing | array _ | table _ => none

/-- The number of words that stand for a truth value. -/
def wordCount? (word : String) : Option Nat :=
  if (trueWords.drop 1).contains word then some 1
  else if (falseWords.drop 1).contains word then some 0
  else none

/-- The nearest whole number, a half away from zero, held between 0 and the largest index. -/
def countOfFloat (x : Float) : Nat :=
  if x ≤ 0 then 0
  else if Decimal.isFinite x then
    let b := Decimal.Binary.ofFloat x
    min ((2 * b.num + b.den) / (2 * b.den)) Text.maxIndex
  else if Decimal.isInfinite x then Text.maxIndex
  else 0

/-- A number from 0, or what stands for one. -/
def count? : Setting → Option Nat
  | bool b => some b.toNat
  | int n => if 0 ≤ n then some n.toNat else none
  | float x => some (countOfFloat x)
  | text s => (wordCount? (small s)).or (Text.readIndex? s.toList)
  | missing | array _ | table _ => none

/-- The text of a single value. -/
def text? : Setting → Option String
  | bool b => some (if b then "true" else "false")
  | int n => some (Text.intText n)
  | float x => some (String.ofList (Decimal.plainText x))
  | text s => some s
  | missing | array _ | table _ => none

end Setting

end Verdict
