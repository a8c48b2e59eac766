-- The comparators of conditions: their names, and what the relational
-- ones say of an ordering.
import Verdict.Text.Ascii

namespace Verdict

inductive Comparator where
  | eq | ne | lt | gt | le | ge
  | contains | startsWith | endsWith | isOneOf
  /-- Always true; the condition takes the left value as its name. -/
  | copy
deriving DecidableEq, Repr

namespace Comparator

/-! ## Names -/

def name : Comparator → String
  | eq => "Eq"
  | ne => "Ne"
  | lt => "Lt"
  | gt => "Gt"
  | le => "Le"
  | ge => "Ge"
  | contains => "Contains"
  | startsWith => "StartsWith"
  | endsWith => "EndsWith"
  | isOneOf => "IsOneOf"
  | copy => "Copy"

/-- The comparator of a name in its lookup form. -/
def ofForm? (form : String) : Option Comparator :=
  if form ∈ ["eq", "=", "=="] then some eq
  else if form ∈ ["ne", "neq", "!=", "<>"] then some ne
  else if form ∈ ["lt", "<"] then some lt
  else if form ∈ ["gt", ">"] then some gt
  else if form ∈ ["le", "lte", "<="] then some le
  else if form ∈ ["ge", "gte", ">="] then some ge
  else if form = "contains" then some contains
  else if form ∈ ["startswith", "starts_with"] then some startsWith
  else if form ∈ ["endswith", "ends_with"] then some endsWith
  else if form ∈ ["isoneof", "is_one_of"] then some isOneOf
  else if form = "copy" then some copy
  else none

/-- The comparator of a name or a symbol, in any case and with blanks around it. -/
def ofName? (text : String) : Option Comparator := ofForm? (Text.nameForm text)

theorem ofName?_name (c : Comparator) : ofName? c.name = some c := by
  cases c <;> decide +kernel

/-! ## Orderings -/

/-- One of the six comparators that an ordering decides. -/
def isRelational : Comparator → Bool
  | eq | ne | lt | gt | le | ge => true
  | contains | startsWith | endsWith | isOneOf | copy => false

/-- Whether an ordering passes. The other comparators do not look at an ordering. -/
def testOrdering? : Comparator → Ordering → Option Bool
  | eq, o => some (o == .eq)
  | ne, o => some (o != .eq)
  | lt, o => some (o == .lt)
  | gt, o => some (o == .gt)
  | le, o => some (o != .gt)
  | ge, o => some (o != .lt)
  | _, _ => none

theorem isSome_testOrdering? (c : Comparator) (o : Ordering) :
    (c.testOrdering? o).isSome = c.isRelational := by
  cases c <;> rfl

end Comparator

end Verdict
