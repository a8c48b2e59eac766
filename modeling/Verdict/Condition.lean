-- Conditions: two values and a comparator. A condition without values is
-- disabled and never holds.
import Verdict.Compare
import Verdict.Definition.Condition
import Verdict.Value.Resolve

namespace Verdict

structure Condition where
  id : Nat
  /-- The condition as it was stated. -/
  label : String
  /-- The name under which the condition is listed when it holds. -/
  name : String
  comparator : Comparator
  operands : Option (ValueNode × ValueNode)
deriving DecidableEq, Repr

namespace Condition

/-! ## Making -/

def labelOf (left : ValueNode) (comparator : Comparator) (right : ValueNode) : String :=
  left.text ++ " " ++ comparator.name ++ " " ++ right.text

def ofOperands (id : Nat) (left : ValueNode) (comparator : Comparator) (right : ValueNode) :
    Condition :=
  ⟨id, labelOf left comparator right, labelOf left comparator right, comparator, some (left, right)⟩

/-- A condition without values. It goes by its id. -/
def disabled (id : Nat) (comparator : Comparator) : Condition :=
  ⟨id, idAlias id, idAlias id, comparator, none⟩

/-- The comparator of a name. -/
def readComparator (name : String) : Except Fault Comparator :=
  match Comparator.ofName? name with
  | some c => .ok c
  | none => .error (.unknownComparator (Text.nameForm name))

/-- The condition that a definition stands for. -/
def ofDefinition (d : ConditionDefinition) : Except Fault Condition := do
  let id ← d.id.number
  let comparator ← readComparator d.comparator
  match d.left, d.right with
  | some left, some right =>
    let left ← left.node
    let right ← right.node
    .ok (ofOperands id left comparator right)
  | _, _ => .error (.missingOperand id)

/-! ## Changing -/

/-- The condition under another id. A disabled one takes its name from it. -/
def withId (c : Condition) (id : Nat) : Condition :=
  match c.operands with
  | some _ => { c with id }
  | none => { c with id, label := idAlias id, name := idAlias id }

def disable (c : Condition) : Condition := { c with operands := none }

def isEnabled (c : Condition) : Bool := c.operands.isSome

@[simp] theorem id_withId (c : Condition) (id : Nat) : (c.withId id).id = id := by
  unfold withId; split <;> rfl

/-! ## Outcomes -/

/-- The comparison of the two values, or why they cannot be compared. -/
def outcome (x : Context) (c : Condition) : Except Fault Bool :=
  match c.operands with
  | none => .ok false
  | some (left, right) => (left.resolve x).compare c.comparator (right.resolve x)

/-- The condition holds. One whose values cannot be compared does not. -/
def holds (x : Context) (c : Condition) : Bool :=
  match c.outcome x with
  | .ok b => b
  | .error _ => false

/-- The condition after it was tested. With the comparator `copy` it takes the left value as its
name. -/
def tested (x : Context) (c : Condition) : Condition :=
  match c.operands with
  | none => c
  | some (left, _) =>
    if c.comparator = .copy then { c with name := (left.resolve x).value.getD absentText } else c

/-- What a test reports: values that cannot be resolved or compared. -/
def reports (x : Context) (c : Condition) : List Report :=
  match c.operands with
  | none => []
  | some (left, right) =>
    left.resolveReports x ++ right.resolveReports x ++
      match c.outcome x with
      | .ok _ => []
      | .error fault => [.error fault.message c.label]

@[simp] theorem id_tested (x : Context) (c : Condition) : (c.tested x).id = c.id := by
  unfold tested; split
  · rfl
  · split <;> rfl

@[simp] theorem label_tested (x : Context) (c : Condition) : (c.tested x).label = c.label := by
  unfold tested; split
  · rfl
  · split <;> rfl

@[simp] theorem operands_tested (x : Context) (c : Condition) :
    (c.tested x).operands = c.operands := by
  unfold tested; split
  · rfl
  · split <;> rfl

end Condition

end Verdict
