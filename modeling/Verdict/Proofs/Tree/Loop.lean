-- Trees built in place. A loop with an index goes over a range of the elements
-- and fills the parts of one tree; for a group, and for what is left behind an
-- operator, it calls for the tree of another range. An element that is not there
-- and a count below zero are outcomes of their own, and so is a loop that does not
-- come to its end.
import Verdict.Tree

namespace Verdict.Tree

/-- What stops the loop without a tree. -/
inductive Trap where
  /-- There is no element at the place. -/
  | outside (place : Nat)
  /-- A count of no parentheses would have to go down. -/
  | underflow
  /-- The turns that were allowed are used up. -/
  | unfinished
deriving DecidableEq, Repr

/-! ## Ranges -/

/-- The places from `start` on that are less than `finish`. -/
structure Range where
  start : Nat
  finish : Nat
deriving DecidableEq, Repr

def Range.size (r : Range) : Nat := r.finish - r.start

/-- The elements at the places of the range. -/
def Range.slice (r : Range) (elements : List Element) : List Element :=
  (elements.take r.finish).drop r.start

/-- The range lies inside of another and is smaller. -/
structure Range.IsPart (inner r : Range) : Prop where
  start_le : r.start ≤ inner.start
  start_le_finish : inner.start ≤ inner.finish
  finish_le : inner.finish ≤ r.finish
  size_lt : inner.size < r.size

/-! ## Groups -/

/-- Goes over elements, the first of them at the place, up to the parenthesis that brings the count
of open ones down to zero. -/
def seekClose : Nat → Nat → List Element → Except Trap (Option Nat)
  | _, _, [] => .ok none
  | count, place, .op .openParen :: es => seekClose (count + 1) (place + 1) es
  | 0, _, .op .closeParen :: _ => .error .underflow
  | count + 1, place, .op .closeParen :: es =>
    if count = 0 then .ok (some place) else seekClose count (place + 1) es
  | count, place, _ :: es => seekClose count (place + 1) es

/-- The place of the parenthesis that closes the one at the start of the range, or the end of the
range if there is none. -/
def partner (elements : List Element) (r : Range) : Except Trap Nat :=
  if r.start ≤ r.finish ∧ r.finish ≤ elements.length then do
    let found ← seekClose 0 r.start (r.slice elements)
    return found.getD r.finish
  else .error (.outside r.finish)

/-! ## Turns -/

/-- The part of the tree that is due. -/
inductive Slot where
  | left | operator | right | done
deriving DecidableEq, Repr

/-- The state of the loop: the part that is due, the place, and the parts of the tree as they are
so far. -/
structure Loop where
  slot : Slot
  place : Nat
  negated : Bool
  left : Tree
  op : LogicOp
  right : Tree
deriving DecidableEq, Repr

namespace Loop

/-- The state at the beginning of a range. -/
def first (place : Nat) : Loop := ⟨.left, place, false, .leaf false, .or, .leaf false⟩

def tree (st : Loop) : Tree := .node st.negated st.left st.op st.right

/-- What is reported when the loop over a range has ended. -/
def lastReports (st : Loop) (r : Range) : List Report :=
  match st.slot with
  | .right => [missingRight (r.finish - 1)]
  | .left => if r.start < r.finish then [missingLeft r.start] else []
  | .operator | .done => []

end Loop

/-- What a turn of the loop comes to. -/
inductive Turn where
  | stop
  | go (next : Loop) (reports : List Report)
  /-- The tree of another range is called for, and the loop goes on with it. -/
  | call (inner : Range) (resume : Tree → Loop)

/-- Where the left operand is due. -/
def turnLeft (elements : List Element) (value : Nat → Bool) (finish : Nat) (st : Loop) :
    Element → Except Trap Turn
  | .ref id =>
    .ok (.go { st with left := .leaf (value id), slot := .operator, place := st.place + 1 } [])
  | .op .not => .ok (.go { st with negated := !st.negated, place := st.place + 1 } [])
  | .op .openParen => do
    let close ← partner elements ⟨st.place, finish⟩
    return .call ⟨st.place + 1, close⟩ fun part =>
      { st with left := part, slot := .operator, place := min (close + 1) finish }
  | .op o => .ok (.go { st with place := st.place + 1 } [misplaced o st.place])

/-- Where the operator is due. An operand there is left where it is, for the next turn. -/
def turnOperator (st : Loop) : Element → Turn
  | .op .closeParen => .go { st with place := st.place + 1 } [extraClose st.place]
  | .ref _ => .go { st with op := .or, slot := .right } [missingOperator st.place]
  | .op o =>
    if o.isBinary then .go { st with op := o, slot := .right, place := st.place + 1 } []
    else .go { st with op := .or, slot := .right } [missingOperator st.place]

/-- Where the right operand is due. It takes all that is left of the range. -/
def turnRight (elements : List Element) (value : Nat → Bool) (finish : Nat) (st : Loop) :
    Element → Except Trap Turn
  | .ref id =>
    if st.place + 1 = finish then
      .ok (.go { st with right := .leaf (value id), slot := .done, place := st.place + 1 } [])
    else .ok (.call ⟨st.place, finish⟩ whole)
  | .op .not => .ok (.call ⟨st.place, finish⟩ whole)
  | .op .openParen => do
    let close ← partner elements ⟨st.place, finish⟩
    if close + 1 = finish then return .call ⟨st.place + 1, finish - 1⟩ whole
    else return .call ⟨st.place, finish⟩ whole
  | .op o => .ok (.go { st with place := st.place + 1 } [misplaced o st.place])
where
  whole (part : Tree) : Loop := { st with right := part, slot := .done, place := finish }

/-- One turn of the loop over a range that ends at a place. -/
def turn (elements : List Element) (value : Nat → Bool) (finish : Nat) (st : Loop) :
    Except Trap Turn :=
  if finish ≤ st.place ∨ st.slot = .done then .ok .stop
  else match elements[st.place]? with
    | none => .error (.outside st.place)
    | some e =>
      match st.slot with
      | .left => turnLeft elements value finish st e
      | .operator => .ok (turnOperator st e)
      | .right => turnRight elements value finish st e
      | .done => .ok .stop

/-- Runs the loop over a range, with the loops that it calls for. No more turns are allowed inside
of each other than the number tells. -/
def run (elements : List Element) (value : Nat → Bool) :
    Nat → Range → Loop → Except Trap (Tree × List Report)
  | 0, _, _ => .error .unfinished
  | n + 1, r, st => do
    match ← turn elements value r.finish st with
    | .stop => return (st.tree, st.lastReports r)
    | .go next reports =>
      let (tree, more) ← run elements value n r next
      return (tree, reports ++ more)
    | .call inner resume =>
      let (part, reports) ← run elements value n inner (.first inner.start)
      let (tree, more) ← run elements value n r (resume part)
      return (tree, reports ++ more)

/-- The tree of a range, built with so many turns inside of each other at most. -/
def buildIn (elements : List Element) (value : Nat → Bool) (n : Nat) (r : Range) :
    Except Trap (Tree × List Report) := run elements value n r (.first r.start)

/-! ## Ways of the loop -/

/-- The states that the loop over a range comes to, whatever trees it gets when it calls for
some. -/
inductive Visits (elements : List Element) (value : Nat → Bool) (r : Range) : Loop → Prop
  | first : Visits elements value r (.first r.start)
  | go {st next : Loop} {reports : List Report} : Visits elements value r st →
      turn elements value r.finish st = .ok (.go next reports) → Visits elements value r next
  | call {st : Loop} {inner : Range} {resume : Tree → Loop} (part : Tree) :
      Visits elements value r st → turn elements value r.finish st = .ok (.call inner resume) →
      Visits elements value r (resume part)

/-- The loop over a range can come to call for the tree of another. -/
def Calls (elements : List Element) (value : Nat → Bool) (r inner : Range) : Prop :=
  ∃ st resume, Visits elements value r st ∧
    turn elements value r.finish st = .ok (.call inner resume)

end Verdict.Tree
