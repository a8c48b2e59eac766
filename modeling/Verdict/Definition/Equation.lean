-- Definitions of formulas: a compact text, or a list of tokens.
import Verdict.Definition.ConditionId

namespace Verdict

/-! ## Tokens -/

/-- An operator by its name, or the word for a reference with the id of a condition. -/
structure TokenDefinition where
  op : String
  value : Option ConditionId
deriving DecidableEq, Repr

namespace TokenDefinition

def fieldNames : List String := ["op", "value"]

/-- Reads a token with at most `depth` levels of nesting. -/
def ofDocument? (depth : Nat) (d : Json.Document) : Option TokenDefinition :=
  if depth = 0 then none
  else match d.fields? fieldNames with
    | some [some op, value] => do
      let op ← op.string?
      let value ← Json.Document.optional? (ConditionId.ofDocument? (depth - 1)) value
      some ⟨op, value⟩
    | _ => none

def ofText? (text : String) : Option TokenDefinition :=
  (Json.Document.ofText? text).bind (ofDocument? Json.Document.maxDepth)

def json (d : TokenDefinition) : Json :=
  .obj [("op", .str d.op), ("value", Json.ofOption ConditionId.json d.value)]

end TokenDefinition

/-! ## Formulas -/

inductive EquationDefinition where
  | formula (text : String)
  | tokens (items : List TokenDefinition)
deriving DecidableEq, Repr

namespace EquationDefinition

/-- A compact text: an object with the field `formula`. -/
def formula? (d : Json.Document) : Option EquationDefinition :=
  match d.named? ["formula"] with
  | some [some text] => text.string?.map formula
  | _ => none

/-- A list of tokens: an object with the field `tokens`. -/
def tokens? (depth : Nat) (d : Json.Document) : Option EquationDefinition :=
  match d.named? ["tokens"] with
  | some [some (.arr items)] => (items.mapM (TokenDefinition.ofDocument? depth)).map tokens
  | _ => none

/-- Reads a definition with at most `depth` levels of nesting. All of it must be a value, what
is not used of it too; then it is a text if it can be, and otherwise a list of tokens. -/
def ofDocument? (depth : Nat) (d : Json.Document) : Option EquationDefinition :=
  if d.isValue depth then (formula? d).or (tokens? (depth - 2) d) else none

def ofText? (text : String) : Option EquationDefinition :=
  (Json.Document.ofText? text).bind (ofDocument? Json.Document.maxDepth)

def json : EquationDefinition → Json
  | formula text => .obj [("formula", .str text)]
  | tokens items => .obj [("tokens", .arr (items.map TokenDefinition.json))]

end EquationDefinition

end Verdict
