-- The evaluation of a rule set on a record. Every condition is tested,
-- whatever the formula says; then the repaired formula is evaluated on
-- the outcomes.
import Verdict.RuleSet.Basic
import Verdict.Tree

namespace Verdict

/-- What an evaluation gives. -/
structure Evaluation where
  matched : Bool
  ruleSetId : String
  /-- The names of the conditions that hold. -/
  matchedConditions : List String
  /-- How the verdict came about, if that was asked for. -/
  trace : List String
deriving DecidableEq, Repr

/-- The evaluation as it is printed, with the milliseconds that it took. -/
def Evaluation.json (e : Evaluation) (milliseconds : Nat) : Json :=
  .obj [("matched", .bool e.matched), ("rule_set_id", .str e.ruleSetId),
    ("matched_conditions", .arr (e.matchedConditions.map Json.str)),
    ("evaluation_trace", .arr (e.trace.map Json.str)),
    ("evaluation_time_ms", .int milliseconds)]

namespace RuleSet

/-! ## The formula on outcomes -/

/-- The value of the repaired formula. It is false if there are no conditions. -/
def apply (s : RuleSet) (r : Outcomes) : Bool :=
  match s.maxId? with
  | some _ => Formula.evaluate r s.normalized
  | none => false

/-- What `apply` reports. -/
def applyReports (s : RuleSet) (r : Outcomes) : List Report :=
  match s.maxId? with
  | some _ => s.repairReports ++ Formula.treeReports r s.normalized
  | none => []

/-! ## Conditions on a record -/

/-- What the values of the conditions are resolved against. -/
def context (s : RuleSet) (record : Record) (now : Moment) : Context :=
  ⟨record, now, s.options.places⟩

/-- The outcomes of all conditions. -/
def outcomes (s : RuleSet) (x : Context) : Outcomes :=
  ⟨s.conditions.map fun e => (e.1, e.2.holds x)⟩

/-- The rule set after all conditions were tested. -/
def tested (s : RuleSet) (x : Context) : RuleSet :=
  { s with conditions := s.conditions.map fun e => (e.1, e.2.tested x) }

/-- The names of the conditions that hold, in the order of the ids. -/
def matchedNames (s : RuleSet) (x : Context) : List String :=
  (s.conditions.filter fun e => e.2.holds x).map fun e => (e.2.tested x).name

/-! ## The trace -/

def matchWord (matched : Bool) : String := if matched then "MATCHED" else "NOT_MATCHED"

/-- The outcome of a condition as the trace shows it. -/
def outcomeWord (x : Context) (c : Condition) : String :=
  if c.isEnabled then matchWord (c.holds x) else "DISABLED"

def conditionLine (x : Context) (id : Nat) (c : Condition) : String :=
  s!"{idAlias id}: {c.label} => {outcomeWord x c}"

/-- The line of the formula: the last repair as it is kept, and the verdict. -/
def equationLine (q : Equation) (matched : Bool) : String :=
  s!"equation: {Formula.render (q.normalized?.getD [])} => {matchWord matched}"

/-! ## Evaluation -/

/-- The rule set after an evaluation. -/
def evaluated (s : RuleSet) (record : Record) (now : Moment) : RuleSet :=
  (s.tested (s.context record now)).repaired

/-- The verdict on a record. -/
def evaluate (s : RuleSet) (record : Record) (now : Moment) : Evaluation :=
  let x := s.context record now
  let matched := s.apply (s.outcomes x)
  { matched
    ruleSetId := s.id
    matchedConditions := s.matchedNames x
    trace :=
      if s.options.trace then
        s.conditions.map (fun e => conditionLine x e.1 e.2)
          ++ [equationLine (s.evaluated record now).equation matched]
      else [] }

/-- What an evaluation reports: on the conditions in their order, and then on the formula. -/
def evaluateReports (s : RuleSet) (record : Record) (now : Moment) : List Report :=
  let x := s.context record now
  s.conditions.flatMap (fun e => e.2.reports x) ++ s.applyReports (s.outcomes x)

end RuleSet

end Verdict
