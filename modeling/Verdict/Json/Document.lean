-- JSON text as a tree of its parts. Text may be well formed and still
-- hold what is no value: strings with half a surrogate pair, numbers out
-- of range, too deep nesting. A document keeps those, since they matter
-- only where a value is asked for.
import Verdict.Json.Token
import Verdict.Keyed

namespace Verdict.Json

inductive Document where
  | null
  | bool (b : Bool)
  | number (n : NumberText)
  | str (s : StringText)
  | arr (items : List Document)
  | obj (fields : List (StringText × Document))
deriving Inhabited

namespace Document

/-! ## Reading -/

/-- Where the next value goes: it is an item after those in front of it, the last first, or
the value of a key. -/
inductive Hole where
  | item (before : List Document)
  | member (before : List (StringText × Document)) (key : StringText)

/-- What was read so far, by what may come next. -/
inductive State where
  | value (holes : List Hole)
  | firstItem (holes : List Hole)
  | nextItem (holes : List Hole) (items : List Document)
  | key (holes : List Hole) (fields : List (StringText × Document)) (mayEnd : Bool)
  | colon (holes : List Hole) (fields : List (StringText × Document)) (key : StringText)
  | nextField (holes : List Hole) (fields : List (StringText × Document))
  | done (d : Document)

/-- A value is complete. -/
def fill (d : Document) : List Hole → State
  | [] => .done d
  | .item before :: holes => .nextItem holes (d :: before)
  | .member before key :: holes => .nextField holes ((key, d) :: before)

/-- A value begins, or is complete at once. -/
def begin? (holes : List Hole) : Token → Option State
  | .null => some (fill .null holes)
  | .bool b => some (fill (.bool b) holes)
  | .number n => some (fill (.number n) holes)
  | .string s => some (fill (.str s) holes)
  | .leftBracket => some (.firstItem holes)
  | .leftBrace => some (.key holes [] true)
  | _ => none

def step? : State → Token → Option State
  | .value holes, t => begin? holes t
  | .firstItem holes, .rightBracket => some (fill (.arr []) holes)
  | .firstItem holes, t => begin? (.item [] :: holes) t
  | .nextItem holes items, .comma => some (.value (.item items :: holes))
  | .nextItem holes items, .rightBracket => some (fill (.arr items.reverse) holes)
  | .key holes fields _, .string k => some (.colon holes fields k)
  | .key holes fields true, .rightBrace => some (fill (.obj fields.reverse) holes)
  | .colon holes fields k, .colon => some (.value (.member fields k :: holes))
  | .nextField holes fields, .comma => some (.key holes fields false)
  | .nextField holes fields, .rightBrace => some (fill (.obj fields.reverse) holes)
  | _, _ => none

/-- The document of a text. -/
def ofText? (text : String) : Option Document := do
  match ← (← tokens? text.toList).foldlM step? (.value []) with
  | .done d => some d
  | _ => none

/-! ## Values -/

/-- The nesting of a text that is read into a value. -/
def maxDepth : Nat := 127

mutual

/-- The value of a document with at most `depth` levels of nesting. Objects have their members
in the order of the keys, and of members with one key the last. -/
def value? (depth : Nat) : Document → Option Json
  | .null => some .null
  | .bool b => some (.bool b)
  | .number n => n.value?
  | .str s => s.map .str
  | .arr items => if depth = 0 then none else (values? (depth - 1) items).map .arr
  | .obj fields =>
    if depth = 0 then none else (members? (depth - 1) fields).map fun fs => .obj (Keyed.ofList fs)

def values? (depth : Nat) : List Document → Option (List Json)
  | [] => some []
  | d :: rest =>
    match value? depth d, values? depth rest with
    | some v, some vs => some (v :: vs)
    | _, _ => none

def member? (depth : Nat) : StringText × Document → Option (String × Json)
  | (key, d) =>
    match key, value? depth d with
    | some k, some v => some (k, v)
    | _, _ => none

def members? (depth : Nat) : List (StringText × Document) → Option (List (String × Json))
  | [] => some []
  | field :: rest =>
    match member? depth field, members? depth rest with
    | some m, some ms => some (m :: ms)
    | _, _ => none

end

/-- The document can be read into a value. -/
def isValue (depth : Nat) (d : Document) : Bool := (d.value? depth).isSome

/-! ## Records with named fields -/

/-- The documents given for a name. -/
def given (name : String) (fields : List (StringText × Document)) : List Document :=
  fields.filterMap fun f => if f.1 = some name then some f.2 else none

/-- Each name with what is given for it: at most one document. -/
def byName? (fields : List (StringText × Document)) : List String → Option (List (Option Document))
  | [] => some []
  | name :: names =>
    match given name fields, byName? fields names with
    | [], some rest => some (none :: rest)
    | [d], some rest => some (some d :: rest)
    | _, _ => none

/-- The documents in order, one for each name while there are any, and none left over. -/
def byPlace? : List Document → List String → Option (List (Option Document))
  | [], names => some (names.map fun _ => none)
  | _ :: _, [] => none
  | d :: ds, _ :: names => (byPlace? ds names).map (some d :: ·)

/-- What is given for the fields of an object. Unknown names are passed over. -/
def named? (names : List String) : Document → Option (List (Option Document))
  | .obj fields => if fields.all (·.1.isSome) then byName? fields names else none
  | _ => none

/-- What is given for the fields of a record: an object with the names, or an array in the order
of the names. -/
def fields? (names : List String) : Document → Option (List (Option Document))
  | .arr items => byPlace? items names
  | d => d.named? names

/-- A text. -/
def string? : Document → Option String
  | .str s => s
  | _ => none

/-- What is given for a field that may be left out: nothing, or null, is nothing. -/
def optional? {α : Type} (read : Document → Option α) : Option Document → Option (Option α)
  | none => some none
  | some .null => some none
  | some d => (read d).map some

/-- What is given for a field that has a value of its own if left out. -/
def orElse? {α : Type} (read : Document → Option α) (default : α) : Option Document → Option α
  | none => some default
  | some d => read d

end Document

/-- The value of a text. -/
def ofText? (text : String) : Option Json :=
  (Document.ofText? text).bind fun d => d.value? Document.maxDepth

end Verdict.Json
