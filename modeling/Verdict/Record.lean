-- Records: where the values of fields come from.
import Verdict.Json.Value
import Verdict.Keyed
import Verdict.Text.Ascii
import Verdict.Text.Integer
import Verdict.Text.Split

namespace Verdict

/-! ## Paths -/

namespace Json

/-- The part of a value that one step leads to: a member of an object, or an item of an array by
its place. -/
def step? (step : List Char) : Json → Option Json
  | .obj fields => Keyed.find? (String.ofList step) fields
  | .arr items => (Text.readIndex? step).bind fun i => items[i]?
  | _ => none

/-- The part of a value that some steps lead to, one after another. -/
def follow? : List (List Char) → Json → Option Json
  | [], j => some j
  | step :: steps, j => (j.step? step).bind (follow? steps)

/-- The part of a value that a path leads to. The steps of a path stand between points. -/
def atPath? (path : String) (j : Json) : Option Json := j.follow? (Text.split '.' path.toList)

theorem follow?_append (as bs : List (List Char)) (j : Json) :
    j.follow? (as ++ bs) = (j.follow? as).bind (follow? bs) := by
  induction as generalizing j with
  | nil => rfl
  | cons a as ih => simp [follow?, Option.bind_assoc, funext ih]

end Json

/-! ## Records -/

inductive Record where
  /-- Fields by their exact names. -/
  | fields (entries : List (String × String))
  /-- A row of a table under its headers. -/
  | row (headers values : List String)
  /-- A JSON value, whose fields are named by paths. -/
  | document (data : Json)

namespace Record

/-- A row from its cells, each with its header. -/
def ofCells (cells : List (String × String)) : Record :=
  row (cells.map Prod.fst) (cells.map Prod.snd)

/-- The value of the first header with a name. A row may be shorter than its headers. -/
def cell? (name : String) : List String → List String → Option String
  | header :: headers, values =>
    if Text.sameName header name then values.head? else cell? name headers values.tail
  | [], _ => none

/-- The text of a field. -/
def field? (r : Record) (name : String) : Option String :=
  match r with
  | fields entries => Keyed.find? name entries
  | row headers values => cell? name headers values
  | document data => (data.atPath? name).bind Json.plainText?

end Record

end Verdict
