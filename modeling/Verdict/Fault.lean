-- What can go wrong with a definition, a value or a comparison, and the
-- words for it.
import Verdict.Calendar.Printing
import Verdict.Formula.Element
import Verdict.Numbering
import Verdict.Operator.Comparator
import Verdict.Value.Node

namespace Verdict

/-- The groups of faults. -/
inductive FaultKind where
  /-- A name could not be read. -/
  | parse
  /-- A definition is not one. -/
  | definition
  /-- A value was not found, or could not be compared. -/
  | resolution
  /-- A comparator does not suit a kind of values. -/
  | comparator
  /-- A formula could not be repaired. -/
  | equation
  /-- There is no such rule set. -/
  | notFound
  /-- A text is not JSON, or not JSON of the right shape. -/
  | json
deriving DecidableEq, Repr

inductive Fault where
  | unknownComparator (form : String)
  | unknownArithmetic (form : String)
  | unknownLogic (form : String)
  | unknownKind (form : String)
  | missingKind
  | fieldCompound
  | missingChild
  | missingValue (kind : Kind)
  | blankField
  | idTooLarge (id : Nat)
  | notAnId (text : String)
  | missingOperand (id : Nat)
  | badLiteral (text : String) (kind : Kind)
  | divisionByZero (left right : ValueNode)
  | nothingFound (node : ValueNode)
  | notANumber (node : ValueNode) (text : String)
  | temporalOperator (op : ArithmeticOp)
  | temporalShape (left : Kind) (op : ArithmeticOp) (right : Kind)
  | spanOutOfRange (left : Span) (op : ArithmeticOp) (right : Span)
  | dateOutOfRange (date : Moment) (op : ArithmeticOp) (span : Span)
  | incomparable (kind : Kind) (left right : String)
  | spansTooLong (left right : String)
  | unsuitedComparator (comparator : Comparator) (kind : Kind)
  | unbalanced (elements : List Element)
  | unknownRuleSet (id : String)
  | notJson
deriving DecidableEq

namespace Fault

def kind : Fault → FaultKind
  | unknownComparator _ | unknownArithmetic _ | unknownLogic _ => .parse
  | unknownKind _ | missingKind | fieldCompound | missingChild | missingValue _ | blankField
  | idTooLarge _ | notAnId _ | missingOperand _ => .definition
  | badLiteral .. | divisionByZero .. | nothingFound _ | notANumber .. | temporalOperator _
  | temporalShape .. | spanOutOfRange .. | dateOutOfRange .. | incomparable ..
  | spansTooLong .. => .resolution
  | unsuitedComparator .. => .comparator
  | unbalanced _ => .equation
  | unknownRuleSet _ => .notFound
  | notJson => .json

/-- What went wrong, without the group it belongs to. -/
def cause : Fault → String
  | unknownComparator form => s!"未知的比较符: '{form}'"
  | unknownArithmetic form => s!"未知的算术运算符: '{form}'"
  | unknownLogic form => s!"未知的逻辑运算符: '{form}'"
  | unknownKind form => s!"未知的取值类型: '{form}'"
  | missingKind => "取值节点缺少 kind"
  | fieldCompound => "复合节点的 kind 不能为 Field"
  | missingChild => "复合节点需要 left 和 right 两个子节点"
  | missingValue kind => s!"{kind.name} 节点缺少 value"
  | blankField => "字段名不能为空"
  | idTooLarge id => s!"条件编号 {Text.natText id} 超过上限 {Text.natText maxConditionId}"
  | notAnId text => s!"无效的条件编号: '{text}'"
  | missingOperand id => s!"条件 {idAlias id} 缺少取值节点"
  | badLiteral text kind => s!"无法将字面量 '{text}' 解析为 {kind.name}"
  | divisionByZero left right => s!"除数为零: {left.text} / {right.text}"
  | nothingFound node => s!"'{node.text}' 没有取到值"
  | notANumber node text => s!"'{node.text}' 的值 '{text}' 不是数字"
  | temporalOperator op => s!"日期运算不支持运算符 {op.name}"
  | temporalShape left op right => s!"不支持的日期运算: {left.name} {op.name} {right.name}"
  | spanOutOfRange left op right => s!"时长超出范围: {left.text} {op.name} {right.text}"
  | dateOutOfRange date op span => s!"日期超出范围: {date.fullText} {op.name} {span.text}"
  | incomparable kind left right => s!"无法按 {kind.name} 比较 '{left}' 与 '{right}'"
  | spansTooLong left right => s!"时长超出范围: {left} / {right}"
  | unsuitedComparator comparator kind => s!"{comparator.name} 不支持类型 {kind.name}"
  | unbalanced elements => s!"括号修复失败: {Formula.render elements}"
  | unknownRuleSet id => id
  | notJson => "JSON"

/-- The words that stand before the cause. -/
def heading : FaultKind → String
  | .parse => "规则解析失败: "
  | .definition => "无效的规则定义: "
  | .resolution => "取值失败: "
  | .comparator => "无效的比较符: "
  | .equation => "公式错误: "
  | .notFound => "规则集未找到: "
  | .json => "JSON 序列化错误: "

/-- The whole message. -/
def message (f : Fault) : String := heading f.kind ++ f.cause

end Fault

end Verdict
