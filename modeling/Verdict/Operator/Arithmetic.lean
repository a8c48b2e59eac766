-- The operators of compound values.
import Verdict.Text.Ascii

namespace Verdict

inductive ArithmeticOp where
  /-- No operation: the value of the first operand. -/
  | first
  | plus | minus | times | dividedBy
deriving DecidableEq, Repr

namespace ArithmeticOp

/-! ## Names -/

def symbol : ArithmeticOp → String
  | first => ""
  | plus => "+"
  | minus => "-"
  | times => "*"
  | dividedBy => "/"

/-- The operator as messages show it. -/
def name : ArithmeticOp → String
  | first => "None"
  | op => op.symbol

/-- The operator of a name in its lookup form. -/
def ofForm? (form : String) : Option ArithmeticOp :=
  if form ∈ ["", "none"] then some first
  else if form ∈ ["plus", "+"] then some plus
  else if form ∈ ["minus", "-"] then some minus
  else if form ∈ ["times", "*"] then some times
  else if form ∈ ["dividedby", "divided_by", "/"] then some dividedBy
  else none

/-- The operator of a name or a symbol, in any case and with blanks around it. -/
def ofName? (text : String) : Option ArithmeticOp := ofForm? (Text.nameForm text)

theorem ofName?_name (op : ArithmeticOp) : ofName? op.name = some op := by
  cases op <;> decide +kernel

theorem ofName?_symbol (op : ArithmeticOp) : ofName? op.symbol = some op := by
  cases op <;> decide +kernel

/-! ## Numbers -/

/-- The result on two numbers. There is none for a division by zero. -/
def result? : ArithmeticOp → Float → Float → Option Float
  | first, a, _ => some a
  | plus, a, b => some (a + b)
  | minus, a, b => some (a - b)
  | times, a, b => some (a * b)
  | dividedBy, a, b => if b == 0 then none else some (a / b)

end ArithmeticOp

end Verdict
