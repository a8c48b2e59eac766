-- Definitions of conditions.
import Verdict.Definition.ConditionId
import Verdict.Definition.Node

namespace Verdict

/-- A condition as it is written. -/
structure ConditionDefinition where
  id : ConditionId
  comparator : String
  left : Option NodeDefinition
  right : Option NodeDefinition

namespace ConditionDefinition

def fieldNames : List String := ["id", "comparator", "left", "right"]

/-- Reads a definition with at most `depth` levels of nesting. -/
def ofDocument? (depth : Nat) (d : Json.Document) : Option ConditionDefinition :=
  if depth = 0 then none
  else match d.fields? fieldNames with
    | some [some id, some comparator, left, right] => do
      let id ← ConditionId.ofDocument? (depth - 1) id
      let comparator ← comparator.string?
      let left ← Json.Document.optional? (NodeDefinition.ofDocument? (depth - 1)) left
      let right ← Json.Document.optional? (NodeDefinition.ofDocument? (depth - 1)) right
      some ⟨id, comparator, left, right⟩
    | _ => none

def ofText? (text : String) : Option ConditionDefinition :=
  (Json.Document.ofText? text).bind (ofDocument? Json.Document.maxDepth)

def json (d : ConditionDefinition) : Json :=
  .obj [("id", d.id.json), ("comparator", .str d.comparator),
    ("left", NodeDefinition.childJson d.left), ("right", NodeDefinition.childJson d.right)]

end ConditionDefinition

end Verdict
