-- The store of rule sets by their ids.
import Verdict.RuleSet.Evaluation

namespace Verdict

structure Store where
  /-- The rule sets in the order of their ids. -/
  ruleSets : List (String × RuleSet) := []
  /-- The reporter of rule sets that are made from definitions. -/
  reporter : Reporter := {}
  /-- The options of rule sets that are made from definitions. -/
  options : Options := {}
deriving DecidableEq, Repr

namespace Store

/-! ## Questions -/

def get? (s : Store) (id : String) : Option RuleSet := Keyed.find? id s.ruleSets

def contains (s : Store) (id : String) : Bool := (s.get? id).isSome

def ids (s : Store) : List String := Keyed.keys s.ruleSets

def size (s : Store) : Nat := s.ruleSets.length

def isEmpty (s : Store) : Bool := s.ruleSets.isEmpty

/-! ## Changes -/

/-- Puts a rule set under an id, in place of the one that is there. -/
def put (s : Store) (id : String) (r : RuleSet) : Store :=
  { s with ruleSets := Keyed.insert id r s.ruleSets }

/-- Puts a rule set under its own id, and tells the id. -/
def load (s : Store) (r : RuleSet) : String × Store := (r.id, s.put r.id r)

/-- The rule set of a definition, with the reporter and the options of the store. -/
def ofDefinition (s : Store) (newId : String) (d : RuleSetDefinition) : RuleSet :=
  (RuleSet.ofDefinition s.reporter newId d).withOptions s.options

def loadDefinition (s : Store) (newId : String) (d : RuleSetDefinition) : String × Store :=
  s.load (s.ofDefinition newId d)

/-- Loads definitions one after another. Each comes with the new id that it may need. -/
def loadBatch (s : Store) : List (String × RuleSetDefinition) → List String × Store
  | [] => ([], s)
  | (newId, d) :: rest =>
    let first := s.loadDefinition newId d
    let others := first.2.loadBatch rest
    (first.1 :: others.1, others.2)

/-- Loads a definition that is given as a text. -/
def loadText (s : Store) (newId text : String) : Except Fault String × Store :=
  match RuleSetDefinition.ofText? text with
  | some d =>
    let loaded := s.loadDefinition newId d
    (.ok loaded.1, loaded.2)
  | none => (.error .notJson, s)

/-- Puts a rule set in place of the one with its id, which must be there. -/
def update (s : Store) (r : RuleSet) : Except Fault Unit × Store :=
  if s.contains r.id then (.ok (), (s.load r).2) else (.error (.unknownRuleSet r.id), s)

/-- Takes out the rule set with an id. Whether there was one is told after it. -/
def delete (s : Store) (id : String) : Except Fault Unit × Store :=
  (if s.contains id then .ok () else .error (.unknownRuleSet id),
    { s with ruleSets := Keyed.erase id s.ruleSets })

def clear (s : Store) : Store := { s with ruleSets := [] }

/-- Evaluates a rule set on a record, at its place in the store: it stays there as the evaluation
leaves it. -/
def evaluate (s : Store) (id : String) (record : Record) (now : Moment) :
    Except Fault Evaluation × Store :=
  match s.get? id with
  | some r => (.ok (r.evaluate record now), s.put id (r.evaluated record now))
  | none => (.error (.unknownRuleSet id), s)

/-! ## Counts -/

structure Stats where
  ruleSets : Nat
  conditions : Nat
  disabled : Nat
deriving DecidableEq, Repr

/-- A count over all rule sets, added up. -/
def total (s : Store) (count : RuleSet → Nat) : Nat :=
  s.ruleSets.foldl (fun n e => n + count e.2) 0

def stats (s : Store) : Stats :=
  ⟨s.size, s.total RuleSet.size, s.total RuleSet.disabledCount⟩

/-- The mean number of conditions of a rule set. -/
def Stats.average (t : Stats) : Float :=
  if t.ruleSets = 0 then 0 else Float.ofNat t.conditions / Float.ofNat t.ruleSets

end Store

end Verdict
