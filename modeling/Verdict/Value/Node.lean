-- Values as rules state them, and values as they are found.
import Verdict.Operator.Arithmetic
import Verdict.Value.Kind

namespace Verdict

/-- A value as a rule states it: a text of a kind, a field of the record, or an operation on two
values. -/
inductive ValueNode where
  | literal (kind : Kind) (text : String)
  | field (name : String)
  | compound (kind : Kind) (op : ArithmeticOp) (left right : ValueNode)
deriving DecidableEq, Repr

namespace ValueNode

/-- The kind that the rule gives the value. -/
def kind : ValueNode → Kind
  | literal k _ => k
  | field _ => .field
  | compound k _ _ _ => k

/-- The value as labels and messages show it. -/
def text : ValueNode → String
  | literal _ t => t
  | field name => name
  | compound _ .first left _ => left.text
  | compound _ op left right => "(" ++ left.text ++ " " ++ op.symbol ++ " " ++ right.text ++ ")"

end ValueNode

/-- A value as it is found: its text, or nothing, and its kind. -/
structure TypedValue where
  value : Option String
  kind : Kind
deriving DecidableEq, Repr

namespace TypedValue

def present (text : String) (kind : Kind) : TypedValue := ⟨some text, kind⟩

def absent (kind : Kind) : TypedValue := ⟨none, kind⟩

def isAbsent (v : TypedValue) : Bool := v.value.isNone

end TypedValue

end Verdict
