-- Formulas given as tokens. A token that cannot be read is passed over
-- and reported with its place in the list.
import Verdict.Definition.Equation
import Verdict.Report

namespace Verdict.TokenDefinition

/-! ## Single tokens -/

/-- What a token gives. -/
inductive Reading where
  | element (e : Element)
  /-- A reference without an id. -/
  | missingId
  | faulty (fault : Fault)

/-- The words for a reference, in their lookup form. -/
def referenceWords : List String := ["noderef", "node", "id"]

def isReference (t : TokenDefinition) : Bool := referenceWords.contains (Text.nameForm t.op)

/-- Reads the id of a reference. -/
def readReference : Option ConditionId → Reading
  | none => .missingId
  | some id =>
    match id.number with
    | .ok n => .element (.ref n)
    | .error fault => .faulty fault

/-- Reads the name of an operator. -/
def readOperator (name : String) : Reading :=
  match LogicOp.ofName? name with
  | some op => .element (.op op)
  | none => .faulty (.unknownLogic (Text.nameForm name))

def read (t : TokenDefinition) : Reading :=
  if t.isReference then readReference t.value else readOperator t.op

def element? (t : TokenDefinition) : Option Element :=
  match t.read with
  | .element e => some e
  | .missingId | .faulty _ => none

/-- What is wrong with the token at a place of the list. -/
def complaint? (place : Nat) (t : TokenDefinition) : Option String :=
  match t.read with
  | .element _ => none
  | .missingId => some s!"token {Text.natText place} 缺少条件编号"
  | .faulty fault => some s!"token {Text.natText place}: {fault.message}"

/-! ## Lists of tokens -/

/-- The elements of the tokens. -/
def elements (tokens : List TokenDefinition) : List Element := tokens.filterMap element?

/-- The warnings for tokens whose first one has a place. -/
def reportsFrom (place : Nat) : List TokenDefinition → List Report
  | [] => []
  | t :: rest =>
    ((t.complaint? place).map (Report.warning · (Text.trimmed t.op))).toList
      ++ reportsFrom (place + 1) rest

/-- A warning for each token that is passed over. -/
def reports (tokens : List TokenDefinition) : List Report := reportsFrom 0 tokens

end Verdict.TokenDefinition
