-- The operators and the parentheses of formulas.
import Verdict.Text.Ascii

namespace Verdict

inductive LogicOp where
  | and | or | xor
  | not
  | openParen | closeParen
deriving DecidableEq, Repr

namespace LogicOp

/-! ## Names -/

/-- The name as messages show it. -/
def name : LogicOp → String
  | and => "AND"
  | or => "OR"
  | xor => "XOR"
  | not => "NOT"
  | openParen => "("
  | closeParen => ")"

/-- The operator of a name in its lookup form. -/
def ofForm? (form : String) : Option LogicOp :=
  if form ∈ ["and", ".", "&"] then some and
  else if form ∈ ["or", "+", "|"] then some or
  else if form ∈ ["xor", "x", "^"] then some xor
  else if form ∈ ["not", "-", "!"] then some not
  else if form ∈ ["openparen", "open_paren", "("] then some openParen
  else if form ∈ ["closeparen", "close_paren", ")"] then some closeParen
  else none

/-- The operator of a name or a symbol, in any case and with blanks around it. -/
def ofName? (text : String) : Option LogicOp := ofForm? (Text.nameForm text)

theorem ofName?_name (op : LogicOp) : ofName? op.name = some op := by
  cases op <;> decide +kernel

/-- The one character that stands for the operator in a compact formula. -/
def symbol : LogicOp → Char
  | and => '.'
  | or => '+'
  | xor => 'x'
  | not => '-'
  | openParen => '('
  | closeParen => ')'

def ofSymbol? : Char → Option LogicOp
  | '.' => some and
  | '+' => some or
  | 'x' => some xor
  | '-' => some not
  | '(' => some openParen
  | ')' => some closeParen
  | _ => none

@[simp] theorem ofSymbol?_symbol (op : LogicOp) : ofSymbol? op.symbol = some op := by
  cases op <;> rfl

/-! ## Meaning -/

/-- The operators that stand between two operands. -/
def isBinary : LogicOp → Bool
  | and | or | xor => true
  | not | openParen | closeParen => false

/-- The result on two operands. What is not `and` or `xor` joins them as `or` does. -/
def combine : LogicOp → Bool → Bool → Bool
  | and, a, b => a && b
  | xor, a, b => a != b
  | _, a, b => a || b

end LogicOp

end Verdict
