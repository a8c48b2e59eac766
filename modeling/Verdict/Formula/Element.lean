-- The elements of formulas: operators, parentheses, and references to
-- conditions by their ids.
import Verdict.Operator.Logic
import Verdict.Text.Integer

namespace Verdict

inductive Element where
  | op (o : LogicOp)
  /-- A reference to the condition with this id. -/
  | ref (id : Nat)
deriving DecidableEq, Repr

namespace Element

/-- The id whose letter is taken by the operator `xor`. -/
def takenLetter : Nat := 23

/-- The text of an element in a compact formula. The first ids are small letters, the others
a hash sign and the number. -/
def chars : Element → List Char
  | op o => [o.symbol]
  | ref id =>
    if id < 26 ∧ id ≠ takenLetter then [Text.smallLetter id] else '#' :: Text.natDigits id

def text (e : Element) : String := String.ofList e.chars

/-- The id of a reference. -/
def id? : Element → Option Nat
  | op _ => none
  | ref id => some id

end Element

namespace Formula

/-- The ids that a formula refers to, in its order. -/
def ids (es : List Element) : List Nat := es.filterMap Element.id?

def chars (es : List Element) : List Char := es.flatMap Element.chars

/-- The compact text of a formula. -/
def render (es : List Element) : String := String.ofList (chars es)

@[simp] theorem chars_nil : chars [] = [] := rfl

@[simp] theorem chars_append (as bs : List Element) : chars (as ++ bs) = chars as ++ chars bs := by
  simp [chars]

@[simp] theorem ids_append (as bs : List Element) : ids (as ++ bs) = ids as ++ ids bs := by
  simp [ids]

end Formula

end Verdict
