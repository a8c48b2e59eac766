-- Expression trees. A tree is built from any list of elements, from the
-- left: an operand, an operator, and all the rest as the right operand.
-- So a chain of operators associates to the right, and none of them
-- binds closer than another. What does not fit is passed over and
-- reported.
import Verdict.Formula.Element
import Verdict.Report

namespace Verdict

/-- The outcomes of conditions by their ids. -/
structure Outcomes where
  entries : List (Nat × Bool)
deriving DecidableEq, Repr

/-- The outcome of a condition. One that is not there counts as false. -/
def Outcomes.holds (r : Outcomes) (id : Nat) : Bool := (r.entries.lookup id).getD false

@[simp] theorem Outcomes.holds_of_some {r : Outcomes} {id : Nat} {value : Bool}
    (h : r.entries.lookup id = some value) : r.holds id = value := by
  rw [holds, h, Option.getD_some]

@[simp] theorem Outcomes.holds_of_none {r : Outcomes} {id : Nat}
    (h : r.entries.lookup id = none) : r.holds id = false := by
  rw [holds, h, Option.getD_none]

/-! ## Trees -/

/-- An operand is a value or a tree; a tree joins two operands, the left one negated or not. -/
inductive Tree where
  | leaf (value : Bool)
  | node (negated : Bool) (left : Tree) (op : LogicOp) (right : Tree)
deriving DecidableEq, Repr

namespace Tree

def evaluate : Tree → Bool
  | leaf value => value
  | node negated left op right => op.combine (left.evaluate ^^ negated) right.evaluate

/-! ## Reports -/

def fault (message : String) (place : Nat) : Report :=
  .warning s!"{message} (位置 {Text.natText place})" "expression tree"

def missingOperator (place : Nat) : Report := fault "两个操作数之间缺少运算符，按 OR 处理" place

def extraClose (place : Nat) : Report := fault "多余的右括号" place

def misplaced (o : LogicOp) (place : Nat) : Report :=
  fault s!"位置不正确的运算符 {o.name}，已跳过" place

def missingRight (place : Nat) : Report := fault "运算符缺少右操作数，按 false 处理" place

def missingLeft (place : Nat) : Report := fault "子表达式缺少操作数" place

/-! ## Groups -/

/-- Parts the elements behind an open parenthesis: those in front of the parenthesis that closes
it, and those behind that. The first number counts the parentheses opened since. -/
def splitGroup? : Nat → List Element → Option (List Element × List Element)
  | _, [] => none
  | 0, .op .closeParen :: es => some ([], es)
  | depth + 1, .op .closeParen :: es =>
    (splitGroup? depth es).map fun (g, r) => (.op .closeParen :: g, r)
  | depth, .op .openParen :: es =>
    (splitGroup? (depth + 1) es).map fun (g, r) => (.op .openParen :: g, r)
  | depth, e :: es => (splitGroup? depth es).map fun (g, r) => (e :: g, r)

/-- The two parts and the closing parenthesis make up the elements. -/
theorem length_of_splitGroup? {depth : Nat} {es group rest : List Element}
    (h : splitGroup? depth es = some (group, rest)) :
    group.length + rest.length + 1 = es.length := by
  fun_induction splitGroup? depth es generalizing group rest <;> simp_all <;> try omega
  all_goals
    obtain ⟨a, h1, rfl⟩ := h
    rename_i ih
    have := ih h1
    simp only [List.length_cons]
    omega

/-! ## Building -/

mutual

/-- Builds a tree where an operand is due. `start` is the place where the tree begins, `place`
that of the first element that is left, and `negated` tells of an odd number of `not`s. -/
def build (value : Nat → Bool) (start place : Nat) (negated : Bool) (es : List Element) :
    Tree × List Report :=
  match es with
  | [] =>
    (.node negated (.leaf false) .or (.leaf false),
      if start < place then [missingLeft start] else [])
  | .ref id :: es => buildOperator value negated (.leaf (value id)) (place + 1) es
  | .op .not :: es => build value start (place + 1) (!negated) es
  | .op .openParen :: es =>
    match h : splitGroup? 0 es with
    | some (group, rest) =>
      have := length_of_splitGroup? h
      let (left, reports) := build value (place + 1) (place + 1) false group
      let (tree, more) := buildOperator value negated left (place + group.length + 2) rest
      (tree, reports ++ more)
    | none =>
      let (left, reports) := build value (place + 1) (place + 1) false es
      (.node negated left .or (.leaf false), reports)
  | .op o :: es =>
    let (tree, reports) := build value start (place + 1) negated es
    (tree, misplaced o place :: reports)
termination_by (es.length, 0)

/-- Builds a tree behind its left operand, where an operator is due. -/
def buildOperator (value : Nat → Bool) (negated : Bool) (left : Tree) (place : Nat)
    (es : List Element) : Tree × List Report :=
  match es with
  | [] => (.node negated left .or (.leaf false), [])
  | .op .closeParen :: es =>
    let (tree, reports) := buildOperator value negated left (place + 1) es
    (tree, extraClose place :: reports)
  | .ref id :: es =>
    let (right, reports) := buildRight value place (.ref id :: es)
    (.node negated left .or right, missingOperator place :: reports)
  | .op o :: es =>
    if o.isBinary then
      let (right, reports) := buildRight value (place + 1) es
      (.node negated left o right, reports)
    else
      let (right, reports) := buildRight value place (.op o :: es)
      (.node negated left .or right, missingOperator place :: reports)
termination_by (es.length, 2)

/-- Builds the right operand of a tree from all elements that are left. -/
def buildRight (value : Nat → Bool) (place : Nat) (es : List Element) : Tree × List Report :=
  match es with
  | [] => (.leaf false, [missingRight (place - 1)])
  | [.ref id] => (.leaf (value id), [])
  | .ref id :: es => build value place place false (.ref id :: es)
  | .op .not :: es => build value place place false (.op .not :: es)
  | .op .openParen :: es =>
    match h : splitGroup? 0 es with
    | some (group, []) =>
      have := length_of_splitGroup? h
      build value (place + 1) (place + 1) false group
    | _ => build value place place false (.op .openParen :: es)
  | .op o :: es =>
    let (tree, reports) := buildRight value (place + 1) es
    (tree, misplaced o place :: reports)
termination_by (es.length, 1)

end

/-- The tree of a formula whose first element stands at a place. -/
def ofElements (value : Nat → Bool) (place : Nat) (es : List Element) : Tree × List Report :=
  build value place place false es

end Tree

namespace Formula

/-- The value of a formula. -/
def evaluate (r : Outcomes) (es : List Element) : Bool := (Tree.ofElements r.holds 0 es).1.evaluate

/-- What is reported while the tree of a formula is built. -/
def treeReports (r : Outcomes) (es : List Element) : List Report := (Tree.ofElements r.holds 0 es).2

end Formula

end Verdict
