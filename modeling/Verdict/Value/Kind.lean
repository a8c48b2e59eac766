-- The kinds of values, and the kind that a text has by its form.
import Verdict.Calendar.Reading
import Verdict.Decimal.Reading
import Verdict.Span

namespace Verdict

inductive Kind where
  | string | int | float | date | duration
  /-- The value of a field of the record. -/
  | field
deriving DecidableEq, Repr

namespace Kind

/-! ## Names -/

def name : Kind → String
  | string => "String"
  | int => "Int"
  | float => "Float"
  | date => "Date"
  | duration => "Duration"
  | field => "Field"

/-- The kind of a name in its lookup form. -/
def ofForm? (form : String) : Option Kind :=
  if form ∈ ["string", "text"] then some string
  else if form ∈ ["int", "integer"] then some int
  else if form ∈ ["float", "double", "decimal"] then some float
  else if form ∈ ["date", "datetime"] then some date
  else if form ∈ ["duration", "datespan"] then some duration
  else if form = "field" then some field
  else none

/-- The kind of a name, in any case and with blanks around it. -/
def ofName? (text : String) : Option Kind := ofForm? (Text.nameForm text)

theorem ofName?_name (k : Kind) : ofName? k.name = some k := by
  cases k <;> decide +kernel

/-! ## Groups -/

def isNumeric : Kind → Bool
  | int | float => true
  | string | date | duration | field => false

def isTemporal : Kind → Bool
  | date | duration => true
  | string | int | float | field => false

/-! ## Texts -/

/-- The whole number that a text stands for, blanks at the ends left out. -/
def readInt? (text : String) : Option Int := Text.readInt? (Text.trim text.toList)

/-- The text can be read as a value of the kind. -/
def accepts (text : String) : Kind → Bool
  | string | field => true
  | int => (readInt? text).isSome
  | float => (Decimal.readFloat? text).isSome
  | date => (Calendar.ofText? text).isSome
  | duration => (Span.ofText? text).isSome

/-- The first kind that accepts a text: date, duration, whole number, number, and text at last. -/
def infer (text : String) : Kind :=
  if accepts text date then date
  else if accepts text duration then duration
  else if accepts text int then int
  else if accepts text float then float
  else string

end Kind

end Verdict
