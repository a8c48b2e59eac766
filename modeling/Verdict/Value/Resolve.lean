-- The resolution of values: what a value of a rule is for one record. A
-- value that cannot be resolved is absent, and one report says why.
import Verdict.Decimal.Fixed
import Verdict.Fault
import Verdict.Record
import Verdict.Report

namespace Verdict

/-- What values are resolved against. -/
structure Context where
  record : Record
  /-- The present, for the literal `today`. -/
  now : Moment
  /-- The places after the point in the results of compounds. -/
  places : Nat := 2

namespace ValueNode

/-! ## Literals and fields -/

/-- The literal that stands for the present. -/
def isToday (kind : Kind) (text : String) : Bool :=
  kind == .date && Text.sameName text "today"

/-- The value of a literal. Its text must be one of its kind. -/
def literalValue (now : Moment) (kind : Kind) (text : String) : Except Fault TypedValue :=
  if isToday kind text then .ok (.present now.clockText .date)
  else if kind.accepts text then .ok (.present text kind)
  else .error (.badLiteral text kind)

/-- The value of a field. Its text tells its kind; a field that is not there is absent. -/
def fieldValue (r : Record) (name : String) : TypedValue :=
  match r.field? name with
  | some text => .present text (.infer text)
  | none => .absent .string

/-! ## Numbers -/

/-- The number that the value of a node stands for. -/
def number (node : ValueNode) (v : TypedValue) : Except Fault Float :=
  match v.value with
  | none => .error (.nothingFound node)
  | some text =>
    match Decimal.readFloat? text with
    | some x => .ok x
    | none => .error (.notANumber node text)

/-- The text of a result: whole numbers are rounded down, others have a fixed number of places. -/
def numberText (places : Nat) (kind : Kind) (x : Float) : String :=
  if kind = .int then Text.intText (Decimal.floorInt64 x)
  else String.ofList (Decimal.fixed places x)

/-! ## Dates and durations -/

/-- An operand of an operation on dates and durations. -/
inductive Temporal where
  | date (m : Moment)
  | span (s : Span)

/-- The date or the duration that a value stands for. The text of a value of another kind may be
either. -/
def temporal? (v : TypedValue) : Option Temporal :=
  v.value.bind fun text =>
    match v.kind with
    | .date => (Calendar.ofText? text).map .date
    | .duration => (Span.ofText? text).map .span
    | _ => ((Calendar.ofText? text).map .date).or ((Span.ofText? text).map .span)

/-- Tells a subtraction from an addition. The other operators do not work on dates. -/
def subtracts (op : ArithmeticOp) : Except Fault Bool :=
  match op with
  | .plus => .ok false
  | .minus => .ok true
  | op => .error (.temporalOperator op)

/-- A date moved by a duration. -/
def shifted (date : Moment) (op : ArithmeticOp) (span : Span) (seconds : Int) :
    Except Fault TypedValue :=
  match date.shift? (if op = .minus then -seconds else seconds) with
  | some m => .ok (.present m.text .date)
  | none => .error (.dateOutOfRange date op span)

/-- The result on two values: the difference of two dates, the sum or the difference of two
durations, or a date moved by a duration. -/
def temporalValue (first : TypedValue) (op : ArithmeticOp) (second : TypedValue) :
    Except Fault TypedValue := do
  let negate ← subtracts op
  let unsuited : Fault := .temporalShape first.kind op second.kind
  match temporal? first, temporal? second with
  | some (.date a), some (.date b) =>
    if negate then .ok (.present (Span.between a b).text .duration) else .error unsuited
  | some (.span a), some (.span b) =>
    match a.combine? b negate with
    | some s => .ok (.present s.text .duration)
    | none => .error (.spanOutOfRange a op b)
  | some (.date date), some (.span span) =>
    match span.seconds? with
    | some seconds => shifted date op span seconds
    | none => .error unsuited
  | _, _ => .error unsuited

/-! ## All values -/

/-- The value of a node, or why there is none. -/
def value (c : Context) : ValueNode → Except Fault TypedValue
  | literal kind text => literalValue c.now kind text
  | field name => .ok (fieldValue c.record name)
  | compound kind op left right => do
    let first ← left.value c
    if kind.isTemporal then
      if op = .first then .ok first
      else
        let second ← right.value c
        temporalValue first op second
    else
      let a ← number left first
      let second ← right.value c
      let b ← number right second
      match op.result? a b with
      | some x => .ok (.present (numberText c.places kind x) kind)
      | none => .error (.divisionByZero left right)

/-- The kind of a value that could not be resolved. -/
def fallbackKind (node : ValueNode) : Kind := if node.kind = .field then .string else node.kind

/-- The value of a node. One that cannot be resolved is absent. -/
def resolve (c : Context) (node : ValueNode) : TypedValue :=
  match node.value c with
  | .ok v => v
  | .error _ => .absent node.fallbackKind

/-- What `resolve` reports: why a value could not be resolved. -/
def resolveReports (c : Context) (node : ValueNode) : List Report :=
  match node.value c with
  | .ok _ => []
  | .error fault => [.error fault.message node.text]

end ValueNode

end Verdict
