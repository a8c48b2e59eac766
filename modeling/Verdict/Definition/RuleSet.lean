-- Definitions of rule sets, as they are kept in files.
import Verdict.Definition.Condition
import Verdict.Definition.Equation

namespace Verdict

/-- A rule set as it is written. -/
structure RuleSetDefinition where
  id : Option String
  name : Option String
  conditions : List ConditionDefinition
  equation : EquationDefinition

namespace RuleSetDefinition

def fieldNames : List String := ["id", "name", "conditions", "equation"]

/-- Reads the conditions of a rule set. -/
def conditions? (depth : Nat) : Json.Document → Option (List ConditionDefinition)
  | .arr items =>
    if depth = 0 then none else items.mapM (ConditionDefinition.ofDocument? (depth - 1))
  | _ => none

/-- Reads a definition with at most `depth` levels of nesting. All fields may be left out. -/
def ofDocument? (depth : Nat) (d : Json.Document) : Option RuleSetDefinition :=
  if depth = 0 then none
  else match d.fields? fieldNames with
    | some [id, name, conditions, equation] => do
      let id ← Json.Document.optional? Json.Document.string? id
      let name ← Json.Document.optional? Json.Document.string? name
      let conditions ← Json.Document.orElse? (conditions? (depth - 1)) [] conditions
      let equation ←
        Json.Document.orElse? (EquationDefinition.ofDocument? (depth - 1)) (.formula "") equation
      some ⟨id, name, conditions, equation⟩
    | _ => none

def ofText? (text : String) : Option RuleSetDefinition :=
  (Json.Document.ofText? text).bind (ofDocument? Json.Document.maxDepth)

def json (d : RuleSetDefinition) : Json :=
  .obj [("id", Json.ofOption .str d.id), ("name", Json.ofOption .str d.name),
    ("conditions", .arr (d.conditions.map ConditionDefinition.json)),
    ("equation", d.equation.json)]

/-! ## The id -/

/-- The id that is written. A blank one counts as none. -/
def givenId? (d : RuleSetDefinition) : Option String :=
  d.id.filter fun id => !Text.isBlankText id

end RuleSetDefinition

end Verdict
