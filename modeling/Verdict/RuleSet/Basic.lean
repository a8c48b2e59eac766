-- Rule sets: conditions by their ids, and a formula over the ids.
import Verdict.Condition
import Verdict.Definition.RuleSet
import Verdict.Equation

namespace Verdict

/-- How a rule set is evaluated. -/
structure Options where
  /-- An evaluation tells how it came about. -/
  trace : Bool := false
  /-- The places after the point in the results of compounds. -/
  places : Nat := 2
deriving DecidableEq, Repr

structure RuleSet where
  id : String
  name : String
  /-- The conditions in the order of their ids. -/
  conditions : List (Nat × Condition) := []
  equation : Equation := {}
  reporter : Reporter := {}
  options : Options := {}
deriving DecidableEq, Repr

/-! ## Conditions from definitions -/

namespace ConditionDefinition

/-- The condition of a definition. One that is not right gives a disabled condition, with the
comparator if that can be read. -/
def condition (d : ConditionDefinition) (id : Nat) : Condition :=
  match Condition.ofDefinition d with
  | .ok c => c
  | .error _ => .disabled id ((Comparator.ofName? d.comparator).getD .eq)

/-- The condition of a definition under its id, if the id is right. -/
def entry? (d : ConditionDefinition) : Option (Nat × Condition) :=
  match d.id.number with
  | .ok id => some (id, d.condition id)
  | .error _ => none

/-- The warning about a definition that is not right. -/
def complaint? (d : ConditionDefinition) : Option Report :=
  match d.id.number with
  | .error fault => some (.warning fault.message d.id.text)
  | .ok id =>
    match Condition.ofDefinition d with
    | .ok _ => none
    | .error fault => some (.warning s!"条件已禁用: {fault.message}" (idAlias id))

end ConditionDefinition

namespace RuleSet

/-! ## Making -/

/-- A rule set without conditions. -/
def new (id : String) : RuleSet := { id, name := id, reporter := { sender := some id } }

/-- The rule set with another reporter, which takes the name of the rule set if it has none. -/
def withReporter (s : RuleSet) (r : Reporter) : RuleSet := { s with reporter := r.named s.name }

def withOptions (s : RuleSet) (options : Options) : RuleSet := { s with options }

def withTrace (s : RuleSet) : RuleSet := { s with options := { s.options with trace := true } }

/-- The rule set of a definition. A new id is used if the definition has none. Of conditions with
one id the last stays. -/
def ofDefinition (r : Reporter) (newId : String) (d : RuleSetDefinition) : RuleSet :=
  let id := d.givenId?.getD newId
  let name := d.name.getD id
  { id, name
    conditions := Keyed.ofList (d.conditions.filterMap ConditionDefinition.entry?)
    equation := .ofDefinition d.equation
    reporter := r.named name }

/-- What is reported while a definition is read. -/
def definitionReports (d : RuleSetDefinition) : List Report :=
  d.conditions.filterMap ConditionDefinition.complaint? ++ d.equation.reports

/-! ## Conditions -/

def condition? (s : RuleSet) (id : Nat) : Option Condition := Keyed.find? id s.conditions

def size (s : RuleSet) : Nat := s.conditions.length

def isEmpty (s : RuleSet) : Bool := s.conditions.isEmpty

/-- The largest id of a condition. -/
def maxId? (s : RuleSet) : Option Nat := s.conditions.getLast?.map Prod.fst

def disabledCount (s : RuleSet) : Nat := s.conditions.countP fun e => !e.2.isEnabled

/-- Puts a condition under an id, in place of the one that is there. Ids that are too large are
refused. -/
def add (s : RuleSet) (id : Nat) (c : Condition) : RuleSet :=
  if id ≤ maxConditionId then { s with conditions := Keyed.insert id (c.withId id) s.conditions }
  else s

/-- The condition that `add` replaces. -/
def replaced? (s : RuleSet) (id : Nat) : Option Condition :=
  if id ≤ maxConditionId then s.condition? id else none

/-- What `add` reports: a condition that is refused. -/
def addReports (id : Nat) (c : Condition) : List Report :=
  if id ≤ maxConditionId then []
  else [.warning
    s!"条件编号 {Text.natText id} 超过上限 {Text.natText maxConditionId}，已忽略" c.label]

def remove (s : RuleSet) (id : Nat) : RuleSet :=
  { s with conditions := Keyed.erase id s.conditions }

/-! ## The formula -/

def setEquation (s : RuleSet) (q : Equation) : RuleSet := { s with equation := q }

/-- Takes a compact text as the formula. -/
def setFormula (s : RuleSet) (formula : String) : RuleSet := s.setEquation (.ofFormula formula)

def setElements (s : RuleSet) (es : List Element) : RuleSet :=
  s.setEquation (s.equation.setElements es)

/-- The rule set after its formula was repaired for the conditions that it has. Without a condition
there is nothing to repair. -/
def repaired (s : RuleSet) : RuleSet :=
  match s.maxId? with
  | some maxId => { s with equation := s.equation.normalize maxId }
  | none => s

/-- The formula repaired for the conditions that the rule set has. -/
def normalized (s : RuleSet) : List Element :=
  match s.maxId? with
  | some maxId => s.equation.normalized maxId
  | none => []

/-- What the repair reports. -/
def repairReports (s : RuleSet) : List Report :=
  match s.maxId? with
  | some maxId => s.equation.normalizeReports maxId
  | none => []

/-- Reports as the reporter of the rule set delivers them. -/
def deliver (s : RuleSet) (reports : List Report) : List Diagnostic := s.reporter.deliver reports

end RuleSet

end Verdict
