-- The repair of formulas. Elements that cannot stand where they stand
-- are taken out, operators left hanging at the end too, and open
-- parentheses are closed. Ids that the formula leaves out are joined to
-- it with `or`.
import Verdict.Fault
import Verdict.Report

namespace Verdict.Formula

/-! ## What may follow -/

/-- What stands in front of the next element. -/
inductive Place where
  | start | afterRef | afterBinary | afterOpen | afterClose | afterNot
deriving DecidableEq, Repr

namespace Place

/-- An element may stand at the place, parentheses in other places left out of account. -/
def accepts : Place → Element → Bool
  | start, .ref _ | afterBinary, .ref _ | afterOpen, .ref _ | afterNot, .ref _ => true
  | afterRef, .ref _ | afterClose, .ref _ => false
  | start, .op o | afterBinary, .op o | afterOpen, .op o => o == .openParen || o == .not
  | afterRef, .op o | afterClose, .op o => o == .closeParen || o.isBinary
  | afterNot, .op o => o == .openParen

/-- The place behind an element. -/
def behind : Element → Place
  | .ref _ => afterRef
  | .op .openParen => afterOpen
  | .op .closeParen => afterClose
  | .op .not => afterNot
  | .op _ => afterBinary

end Place

/-- The place in a formula, and how many parentheses are open there. -/
structure Progress where
  place : Place
  depth : Nat
deriving DecidableEq, Repr

namespace Progress

def start : Progress := ⟨.start, 0⟩

/-- An element may stand here, in a formula over the ids up to `maxId`. -/
def admits (maxId : Nat) (p : Progress) (e : Element) : Bool :=
  p.place.accepts e && match e with
    | .ref id => decide (id ≤ maxId)
    | .op .closeParen => decide (0 < p.depth)
    | .op _ => true

/-- Behind an element. -/
def push (p : Progress) (e : Element) : Progress :=
  ⟨.behind e, match e with
    | .op .openParen => p.depth + 1
    | .op .closeParen => p.depth - 1
    | _ => p.depth⟩

end Progress

/-! ## Taking out -/

/-- The elements that stay. -/
def kept (maxId : Nat) (p : Progress) : List Element → List Element
  | [] => []
  | e :: es => if p.admits maxId e then e :: kept maxId (p.push e) es else kept maxId p es

/-- The elements that go, with their places in the formula. -/
def refused (maxId : Nat) (p : Progress) (place : Nat) : List Element → List (Nat × Element)
  | [] => []
  | e :: es =>
    if p.admits maxId e then refused maxId (p.push e) (place + 1) es
    else (place, e) :: refused maxId p (place + 1) es

/-- An operator that needs an operand behind it. -/
def isHanging : Element → Bool
  | .ref _ => false
  | .op o => o != .closeParen

/-- The elements without the hanging operators at the end. -/
def withoutTail (es : List Element) : List Element := (es.reverse.dropWhile isHanging).reverse

/-- The number of parentheses that are open at the end. -/
def openCount (es : List Element) : Nat := (es.foldl Progress.push .start).depth

/-- Closes the open parentheses. -/
def closed (es : List Element) : List Element :=
  es ++ List.replicate (openCount es) (.op .closeParen)

/-! ## Balance -/

/-- No parenthesis is closed that is not open, and none stays open, given how many are open. -/
def isBalancedFrom : Nat → List Element → Bool
  | depth, [] => depth == 0
  | depth, .op .openParen :: es => isBalancedFrom (depth + 1) es
  | 0, .op .closeParen :: _ => false
  | depth + 1, .op .closeParen :: es => isBalancedFrom depth es
  | depth, _ :: es => isBalancedFrom depth es

def isBalanced (es : List Element) : Bool := isBalancedFrom 0 es

/-! ## Repair -/

/-- The repaired formula over the ids up to `maxId`. Its parentheses are checked once more. -/
def repair (maxId : Nat) (es : List Element) : Except Fault (List Element) :=
  let repaired := closed (withoutTail (kept maxId .start es))
  if isBalanced repaired then .ok repaired else .error (.unbalanced repaired)

/-- A warning for each element that is taken out. -/
def repairReports (maxId : Nat) (es : List Element) (context : String) : List Report :=
  (refused maxId .start 0 es).map fun (place, e) =>
    .warning s!"公式位置 {Text.natText place} 的元素 '{e.text}' 非法，已移除" context

/-! ## Completion -/

/-- The ids up to `maxId` that a formula does not refer to. -/
def missing (maxId : Nat) (es : List Element) : List Nat :=
  (List.range (maxId + 1)).filter fun id => !(ids es).contains id

/-- The formula with some ids joined to its end with `or`. -/
def joined (es : List Element) (extra : List Nat) : List Element :=
  let links := extra.flatMap fun id => [.op .or, .ref id]
  if es.isEmpty then links.drop 1 else es ++ links

/-- The repaired formula, or no elements where the repair fails. -/
def repairedOrEmpty (maxId : Nat) (es : List Element) : List Element :=
  match repair maxId es with
  | .ok repaired => repaired
  | .error _ => []

/-- The repaired formula, with every id up to `maxId` in it. -/
def normalize (maxId : Nat) (es : List Element) : List Element :=
  let repaired := repairedOrEmpty maxId es
  joined repaired (missing maxId repaired)

/-- What the repair and the completion report. -/
def normalizeReports (maxId : Nat) (es : List Element) (context : String) : List Report :=
  let failure := match repair maxId es with
    | .ok _ => []
    | .error e => [.error s!"{e.message}，退化为全部条件的 OR" context]
  let extra := missing maxId (repairedOrEmpty maxId es)
  let completion :=
    if extra.isEmpty then []
    else [.info s!"未引用的条件以 OR 追加: {render (extra.map Element.ref)}" context]
  repairReports maxId es context ++ failure ++ completion

end Verdict.Formula
