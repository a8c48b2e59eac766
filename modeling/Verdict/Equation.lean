-- The formula of a rule set. The elements stay as they were given; the
-- repaired formula is kept beside them, with the largest id that it was
-- repaired for, and made anew when that id changes.
import Verdict.Formula.Compact
import Verdict.Formula.Repair
import Verdict.Formula.Token

namespace Verdict

namespace EquationDefinition

def elements : EquationDefinition → List Element
  | formula text => Formula.Compact.elements text
  | tokens items => TokenDefinition.elements items

/-- What is reported while a definition is read. -/
def reports : EquationDefinition → List Report
  | formula text => Formula.Compact.reports text
  | tokens items => TokenDefinition.reports items

end EquationDefinition

structure Equation where
  /-- The elements as they were given. -/
  elements : List Element := []
  /-- The last repair: its largest id, and its result. -/
  repaired : Option (Nat × List Element) := none
deriving DecidableEq, Repr

namespace Equation

/-! ## Making -/

def ofElements (es : List Element) : Equation := { elements := es }

def ofFormula (formula : String) : Equation := ofElements (Formula.Compact.elements formula)

def ofDefinition (d : EquationDefinition) : Equation := ofElements d.elements

/-- Puts other elements in place of those that are there. -/
def setElements (_ : Equation) (es : List Element) : Equation := ofElements es

/-! ## The repaired formula -/

/-- The result of the last repair. -/
def normalized? (q : Equation) : Option (List Element) := q.repaired.map Prod.snd

/-- The last repair was made for this largest id. -/
def isRepairedFor (q : Equation) (maxId : Nat) : Bool := q.repaired.map Prod.fst == some maxId

/-- Repairs the formula for a largest id, unless that was done last. -/
def normalize (q : Equation) (maxId : Nat) : Equation :=
  if q.isRepairedFor maxId then q
  else { q with repaired := some (maxId, Formula.normalize maxId q.elements) }

/-- The repaired formula. -/
def normalized (q : Equation) (maxId : Nat) : List Element :=
  (q.normalize maxId).normalized?.getD []

/-- The compact text of the elements that were given. -/
def text (q : Equation) : String := Formula.render q.elements

/-- What `normalize` reports. A formula that is repaired already gives no reports. -/
def normalizeReports (q : Equation) (maxId : Nat) : List Report :=
  if q.isRepairedFor maxId then [] else Formula.normalizeReports maxId q.elements q.text

/-! ## What a repair leaves -/

@[simp] theorem elements_normalize (q : Equation) (maxId : Nat) :
    (q.normalize maxId).elements = q.elements := by
  unfold normalize; split <;> rfl

@[simp] theorem isRepairedFor_normalize (q : Equation) (maxId : Nat) :
    (q.normalize maxId).isRepairedFor maxId = true := by
  unfold normalize; split
  · assumption
  · simp [isRepairedFor]

end Equation

end Verdict
