-- The statements of a file of settings: headings of tables, and values
-- with their paths. They are read token by token.
import Verdict.Settings.Toml.Table
import Verdict.Settings.Toml.Token
import Verdict.Settings.Toml.Word
import Verdict.Text.Split

namespace Verdict.Settings.Toml

inductive Statement where
  /-- The values that follow belong to this table. -/
  | table (path : List String)
  /-- The values that follow belong to a new table of this row. -/
  | row (path : List String)
  | value (path : List String) (s : Setting)

/-! ## Paths -/

/-- A part of a path: a name, or the point between two names. -/
inductive PathPart where
  | name (s : String)
  | point
deriving DecidableEq, Repr

def isNameChar (c : Char) : Bool := Char.isAlphanum c || c == '_' || c == '-'

/-- The name that a text stands for in no quotes. An empty text is none. -/
def bareName? (cs : List Char) : Option (List PathPart) :=
  if cs = [] then some []
  else if cs.all isNameChar then some [.name (String.ofList cs)]
  else none

/-- The parts of a path in a token. -/
def pathParts? : Token → Option (List PathPart)
  | .string s => some [.name s]
  | .word cs => ((Text.split '.' cs).mapM bareName?).map (List.intercalate [.point])
  | _ => none

/-- The deepest nesting of arrays and tables in a value, and the most names in a path. -/
def maxDepth : Nat := 80

/-- The names between the points of a path. -/
def namesBetween? : List PathPart → Option (List String)
  | [.name s] => some [s]
  | .name s :: .point :: rest => (namesBetween? rest).map (s :: ·)
  | _ => none

/-- The names of a path. Between two of them stands one point. -/
def names? (parts : List PathPart) : Option (List String) :=
  (namesBetween? parts).bind fun names =>
    if names.length ≤ maxDepth then some names else none

/-! ## Places -/

/-- What goes around a value: it is an item after those in front of it, the last first, or the
value of a path in a table. -/
inductive Hole where
  | item (before : List Setting)
  | field (before : Entries) (path : List String)

/-- What may come next. -/
inductive Place where
  | lineStart
  /-- The rest of a line behind a statement. -/
  | lineRest
  /-- Behind the first bracket of a line. -/
  | bracket
  | heading (inRow : Bool) (parts : List PathPart)
  /-- Behind the first of two closing brackets. -/
  | closing (path : List String)
  | path (parts : List PathPart)
  | value (holes : List Hole)
  | item (holes : List Hole) (before : List Setting)
  | nextItem (holes : List Hole) (before : List Setting)
  | field (holes : List Hole) (before : Entries) (parts : List PathPart)
  | nextField (holes : List Hole) (before : Entries)

/-- What was read so far. -/
structure Reader where
  /-- The statements, the last first. -/
  done : List Statement := []
  /-- The path of the value that is read. -/
  path : List String := []
  place : Place := .lineStart

namespace Reader

def goto (r : Reader) (place : Place) : Reader := { r with place }

/-- A statement is complete. -/
def finish (r : Reader) (s : Statement) : Reader := { done := s :: r.done, place := .lineRest }

/-- A value is complete. -/
def fill? (r : Reader) (s : Setting) : List Hole → Option Reader
  | [] => some (r.finish (.value r.path s))
  | .item before :: holes => some (r.goto (.nextItem holes (s :: before)))
  | .field before path :: holes =>
    (putValue? path s before).map fun fields => r.goto (.nextField holes fields)

/-- A value begins, or is complete at once. -/
def begin? (r : Reader) (holes : List Hole) : Token → Option Reader
  | .string s => r.fill? (.text s) holes
  | .lines s => r.fill? (.text s) holes
  | .word cs => do r.fill? (← word? cs) holes
  | .leftBracket => if holes.length < maxDepth then some (r.goto (.item holes [])) else none
  | .leftBrace => if holes.length < maxDepth then some (r.goto (.field holes [] [])) else none
  | _ => none

/-- Blanks change nothing but next to the brackets of a heading, and a line may end wherever an
item or a field begins or ends. -/
def pass? (r : Reader) (lineEnds : Bool) : Option Reader :=
  match r.place, lineEnds with
  | .lineStart, _ => some r
  | .lineRest, true => some (r.goto .lineStart)
  | .bracket, false => some (r.goto (.heading false []))
  | .item .., true | .nextItem .., true | .field _ _ [], true | .nextField .., true => some r
  | _, true => none
  | .closing _, false => none
  | _, false => some r

def step? (r : Reader) (t : Token) : Option Reader :=
  if t = .blank ∨ t = .lineEnd then r.pass? (t = .lineEnd)
  else match r.place, t with
    | .lineStart, .leftBracket => some (r.goto .bracket)
    | .lineStart, t => do some (r.goto (.path (← pathParts? t)))
    | .bracket, .leftBracket => some (r.goto (.heading true []))
    | .bracket, t => do some (r.goto (.heading false (← pathParts? t)))
    | .heading false parts, .rightBracket => do some (r.finish (.table (← names? parts)))
    | .heading true parts, .rightBracket => do some (r.goto (.closing (← names? parts)))
    | .heading inRow parts, t => do some (r.goto (.heading inRow (parts ++ (← pathParts? t))))
    | .closing path, .rightBracket => some (r.finish (.row path))
    | .path parts, .equals => do some { r with path := ← names? parts, place := .value [] }
    | .path parts, t => do some (r.goto (.path (parts ++ (← pathParts? t))))
    | .value holes, t => r.begin? holes t
    | .item holes before, .rightBracket => r.fill? (.array before.reverse) holes
    | .item holes before, t => r.begin? (.item before :: holes) t
    | .nextItem holes before, .comma => some (r.goto (.item holes before))
    | .nextItem holes before, .rightBracket => r.fill? (.array before.reverse) holes
    | .field holes before [], .rightBrace => r.fill? (.table (settingsOf before)) holes
    | .field holes before parts, .equals => do
      some (r.goto (.value (.field before (← names? parts) :: holes)))
    | .field holes before parts, t => do
      some (r.goto (.field holes before (parts ++ (← pathParts? t))))
    | .nextField holes before, .comma => some (r.goto (.field holes before []))
    | .nextField holes before, .rightBrace => r.fill? (.table (settingsOf before)) holes
    | _, _ => none

/-- The statements, if the last of them is complete. -/
def statements? (r : Reader) : Option (List Statement) :=
  match r.place with
  | .lineStart | .lineRest => some r.done.reverse
  | _ => none

end Reader

/-- The statements of a text. -/
def statements? (cs : List Char) : Option (List Statement) := do
  (← (← tokens? cs).foldlM Reader.step? {}).statements?

end Verdict.Settings.Toml
