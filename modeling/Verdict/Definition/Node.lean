-- Definitions of values: what a rule writes, before it is known to make
-- sense.
import Verdict.Fault
import Verdict.Json.Document

namespace Verdict

/-- A value as it is written. With a child it is a compound; otherwise `value` is the text of a
literal or the name of a field. -/
structure NodeDefinition where
  kind : Option String
  value : Option Json
  operator : Option String
  left : Option NodeDefinition
  right : Option NodeDefinition
deriving Inhabited

namespace NodeDefinition

/-! ## Making -/

def field (name : String) : NodeDefinition :=
  ⟨some Kind.field.name, some (.str name), none, none, none⟩

def literal (kind text : String) : NodeDefinition :=
  ⟨some kind, some (.str text), none, none, none⟩

def compound (kind operator : String) (left right : NodeDefinition) : NodeDefinition :=
  ⟨some kind, none, some operator, some left, some right⟩

/-! ## Questions -/

def isCompound (d : NodeDefinition) : Bool := d.left.isSome || d.right.isSome

/-- The text of the value. Numbers, truth values, arrays and objects give their JSON text. -/
def valueText? (d : NodeDefinition) : Option String := d.value.bind Json.plainText?

/-! ## JSON -/

def fieldNames : List String := ["kind", "value", "operator", "left", "right"]

/-- Reads a definition with at most `depth` levels of nesting. -/
def ofDocument? : Nat → Json.Document → Option NodeDefinition
  | 0, _ => none
  | depth + 1, d =>
    match d.fields? fieldNames with
    | some [kind, value, operator, left, right] => do
      let kind ← Json.Document.optional? Json.Document.string? kind
      let value ← Json.Document.optional? (·.value? depth) value
      let operator ← Json.Document.optional? Json.Document.string? operator
      let left ← Json.Document.optional? (ofDocument? depth) left
      let right ← Json.Document.optional? (ofDocument? depth) right
      some ⟨kind, value, operator, left, right⟩
    | _ => none

def ofText? (text : String) : Option NodeDefinition :=
  (Json.Document.ofText? text).bind (ofDocument? Json.Document.maxDepth)

mutual

def json : NodeDefinition → Json
  | ⟨kind, value, operator, left, right⟩ =>
    .obj [("kind", Json.ofOption .str kind), ("value", value.getD .null),
      ("operator", Json.ofOption .str operator), ("left", childJson left),
      ("right", childJson right)]

def childJson : Option NodeDefinition → Json
  | none => .null
  | some d => json d

end

/-! ## Values -/

/-- The kind of a definition. -/
def readKind : Option String → Except Fault Kind
  | none => .error .missingKind
  | some name =>
    match Kind.ofName? name with
    | some kind => .ok kind
    | none => .error (.unknownKind (Text.nameForm name))

/-- The operator of a compound. If none is written, the value is that of the first child. -/
def readOperator : Option String → Except Fault ArithmeticOp
  | none => .ok .first
  | some name =>
    match ArithmeticOp.ofName? name with
    | some op => .ok op
    | none => .error (.unknownArithmetic (Text.nameForm name))

/-- A value without children. -/
def leaf (kind : Kind) : Option String → Except Fault ValueNode
  | none => .error (.missingValue kind)
  | some text =>
    if kind ≠ .field then .ok (.literal kind text)
    else if Text.isBlankText text then .error .blankField
    else .ok (.field (Text.trimmed text))

mutual

/-- The value that a definition stands for. -/
def node : NodeDefinition → Except Fault ValueNode
  | ⟨kind, value, operator, left, right⟩ => do
    let kind ← readKind kind
    if left.isNone && right.isNone then
      leaf kind (value.bind Json.plainText?)
    else if kind = .field then
      .error .fieldCompound
    else if left.isNone || right.isNone then
      .error .missingChild
    else
      let op ← readOperator operator
      let left ← childNode left
      let right ← childNode right
      .ok (.compound kind op left right)

def childNode : Option NodeDefinition → Except Fault ValueNode
  | none => .error .missingChild
  | some d => node d

end

end NodeDefinition

end Verdict
