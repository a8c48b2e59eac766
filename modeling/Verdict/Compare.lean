-- The comparison of two values. The kinds of the two decide how they are
-- compared: as whole numbers, as numbers, as dates, as durations, or
-- else as texts without regard to case.
import Verdict.Fault
import Verdict.Text.LowerCase
import Verdict.Text.Split

namespace Verdict

/-! ## Manners -/

/-- How two texts are compared. -/
inductive Manner where
  | wholes | numbers | dates | spans
  /-- A duration with a number: the amount of the duration counts, whatever its unit. -/
  | amounts
  | texts
deriving DecidableEq, Repr

namespace Manner

/-- How values of two kinds are compared. -/
def ofKinds : Kind → Kind → Manner
  | .int, .int => wholes
  | .int, .float | .float, .int | .float, .float => numbers
  | .date, .date => dates
  | .duration, .duration => spans
  | .duration, .int | .duration, .float | .int, .duration | .float, .duration => amounts
  | _, _ => texts

/-- The kind that takes only the comparators for orderings. -/
def strictKind? : Manner → Option Kind
  | dates => some .date
  | spans | amounts => some .duration
  | wholes | numbers | texts => none

end Manner

/-! ## Orderings -/

/-- Numbers that are closer than this are equal. It is the gap between 1 and the next number. -/
def tolerance : Float := Float.ofBits 0x3CB0000000000000

def orderFloats (a b : Float) : Ordering :=
  if (a - b).abs < tolerance then .eq
  else if a < b then .lt
  else if b < a then .gt
  else .eq

def orderNumbers (a b : String) : Except Fault Ordering :=
  match Decimal.readFloat? a, Decimal.readFloat? b with
  | some x, some y => .ok (orderFloats x y)
  | _, _ => .error (.incomparable .float a b)

def orderWholes (a b : String) : Except Fault Ordering :=
  match Kind.readInt? a, Kind.readInt? b with
  | some m, some n => .ok (compare m n)
  | _, _ => orderNumbers a b

def orderDates (a b : String) : Except Fault Ordering :=
  match Calendar.ofText? a, Calendar.ofText? b with
  | some m, some n => .ok (m.order n)
  | _, _ => .error (.incomparable .date a b)

def orderSpans (a b : String) : Except Fault Ordering :=
  match Span.ofText? a, Span.ofText? b with
  | some s, some t =>
    match s.totalMinutes?, t.totalMinutes? with
    | some m, some n => .ok (compare m n)
    | _, _ => .error (.spansTooLong a b)
  | _, _ => .error (.incomparable .duration a b)

/-- The number that a duration or a number stands for beside the other. -/
def amount? (kind : Kind) (text : String) : Option Float :=
  if kind = .duration then (Span.ofText? text).map fun s => Float.ofInt s.amount
  else Decimal.readFloat? text

def orderAmounts (aKind : Kind) (a : String) (bKind : Kind) (b : String) : Except Fault Ordering :=
  match amount? aKind a, amount? bKind b with
  | some x, some y => .ok (orderFloats x y)
  | _, _ => .error (.incomparable .duration a b)

/-- A text without regard to case. -/
def folded (text : String) : List Char := Text.lower text.toList

def orderTexts (a b : String) : Ordering := Text.order (folded a) (folded b)

/-- The ordering of two texts of given kinds. -/
def orderPresent (aKind : Kind) (a : String) (bKind : Kind) (b : String) : Except Fault Ordering :=
  match Manner.ofKinds aKind bKind with
  | .wholes => orderWholes a b
  | .numbers => orderNumbers a b
  | .dates => orderDates a b
  | .spans => orderSpans a b
  | .amounts => orderAmounts aKind a bKind b
  | .texts => .ok (orderTexts a b)

/-! ## Texts -/

/-- A text is one of the items between the commas of another. Blanks around both are left out. -/
def isOneOf (a list : List Char) : Bool :=
  (Text.split ',' list).any fun item => Text.trim item == Text.trim a

/-- The comparators that look for one text in another. The others find nothing. -/
def testTexts (c : Comparator) (a b : String) : Bool :=
  match c with
  | .contains => Text.isPart (folded b) (folded a)
  | .startsWith => (folded b).isPrefixOf (folded a)
  | .endsWith => (folded b).isSuffixOf (folded a)
  | .isOneOf => isOneOf (folded a) (folded b)
  | _ => false

/-! ## Values -/

/-- What an absent value is equal to. -/
def absentText : String := "null"

def comparePresent (c : Comparator) (aKind : Kind) (a : String) (bKind : Kind) (b : String) :
    Except Fault Bool :=
  if c.isRelational then
    match orderPresent aKind a bKind b with
    | .ok o => .ok ((c.testOrdering? o).getD false)
    | .error fault => .error fault
  else
    match (Manner.ofKinds aKind bKind).strictKind? with
    | some kind => .error (.unsuitedComparator c kind)
    | none => .ok (testTexts c a b)

/-- Compares two values of which one is absent at least. Only the tests for equality can hold,
and none holds beside a date or a duration. -/
def compareAbsent (c : Comparator) (a b : TypedValue) : Bool :=
  if (a.kind.isTemporal && b.isAbsent) || (b.kind.isTemporal && a.isAbsent) then false
  else
    match c with
    | .eq => orderTexts (a.value.getD absentText) (b.value.getD absentText) == .eq
    | .ne => orderTexts (a.value.getD absentText) (b.value.getD absentText) != .eq
    | _ => false

namespace TypedValue

/-- Whether a comparator holds of two values. -/
def compare (a : TypedValue) (c : Comparator) (b : TypedValue) : Except Fault Bool :=
  if c = .copy then .ok true
  else
    match a.value, b.value with
    | some s, some t => comparePresent c a.kind s b.kind t
    | _, _ => .ok (compareAbsent c a b)

end TypedValue

end Verdict
