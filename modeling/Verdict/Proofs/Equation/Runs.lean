-- Equations in use. However often the elements are replaced and repaired, and
-- for whatever largest ids, the repair that is kept never shows: each repair is
-- the one of the elements that are there, and only a new one is reported.
import Mathlib.Data.List.Induction
import Verdict.Equation

namespace Verdict.Equation

/-! ## Histories -/

/-- How an equation is made. -/
inductive Origin where
  | empty
  | elements (es : List Element)
  | formula (text : String)
  | definition (d : EquationDefinition)

/-- What is done with an equation. -/
inductive Step where
  | setElements (es : List Element)
  | normalize (maxId : Nat)
  /-- A copy takes the place of the equation, with all that the equation keeps. -/
  | copy

namespace Origin

def equation : Origin → Equation
  | empty => {}
  | elements es => ofElements es
  | formula text => ofFormula text
  | definition d => ofDefinition d

/-- The elements that the equation is made from. -/
def given : Origin → List Element
  | empty => []
  | elements es => es
  | formula text => Formula.Compact.elements text
  | definition d => d.elements

end Origin

namespace Step

def run (q : Equation) : Step → Equation
  | setElements es => q.setElements es
  | normalize maxId => q.normalize maxId
  | copy => { elements := q.elements, repaired := q.repaired }

/-- The elements that are put in. -/
def elements? : Step → Option (List Element)
  | setElements es => some es
  | normalize _ | copy => none

/-- The largest id that a repair is asked for. -/
def maxId? : Step → Option Nat
  | normalize maxId => some maxId
  | setElements _ | copy => none

end Step

/-- The equation after some steps. -/
def after (o : Origin) (steps : List Step) : Equation := steps.foldl Step.run o.equation

/-- The elements that were given last. -/
def lastGiven (o : Origin) (steps : List Step) : List Element :=
  (steps.filterMap Step.elements?).getLast?.getD o.given

/-- The largest ids that repairs were asked for since elements were given last, the latest
first. -/
def askedSince (steps : List Step) : List Nat :=
  (steps.reverse.takeWhile fun t => t.elements?.isNone).filterMap Step.maxId?

section

variable (o : Origin) (steps : List Step)

@[simp] theorem after_append (t : Step) : after o (steps ++ [t]) = t.run (after o steps) := by
  simp [after]

@[simp] theorem lastGiven_setElements (es : List Element) :
    lastGiven o (steps ++ [.setElements es]) = es := by
  simp [lastGiven, Step.elements?]

@[simp] theorem lastGiven_normalize (maxId : Nat) :
    lastGiven o (steps ++ [.normalize maxId]) = lastGiven o steps := by
  simp [lastGiven, Step.elements?]

@[simp] theorem lastGiven_copy : lastGiven o (steps ++ [.copy]) = lastGiven o steps := by
  simp [lastGiven, Step.elements?]

@[simp] theorem askedSince_setElements (es : List Element) :
    askedSince (steps ++ [.setElements es]) = [] := by
  simp [askedSince, Step.elements?]

@[simp] theorem askedSince_normalize (maxId : Nat) :
    askedSince (steps ++ [.normalize maxId]) = maxId :: askedSince steps := by
  simp [askedSince, Step.elements?, Step.maxId?]

@[simp] theorem askedSince_copy : askedSince (steps ++ [.copy]) = askedSince steps := by
  simp [askedSince, Step.elements?, List.filterMap_cons, Step.maxId?]

end

/-! ## What is kept -/

/-- The equation has the elements, and keeps their repair for the largest id that was asked for
last. -/
structure Keeps (q : Equation) (es : List Element) (last : Option Nat) : Prop where
  elements : q.elements = es
  repaired : q.repaired = last.map fun maxId => (maxId, Formula.normalize maxId es)

variable {q : Equation} {es : List Element} {last : Option Nat}

theorem keeps_ofElements (es : List Element) : Keeps (ofElements es) es none := ⟨rfl, rfl⟩

theorem keeps_origin (o : Origin) : Keeps o.equation o.given none := by
  rcases o with _ | es | text | d
  · exact keeps_ofElements []
  · exact keeps_ofElements es
  · exact keeps_ofElements (Formula.Compact.elements text)
  · exact keeps_ofElements d.elements

theorem Keeps.isRepairedFor (h : Keeps q es last) (maxId : Nat) :
    q.isRepairedFor maxId = (last == some maxId) := by
  unfold Equation.isRepairedFor
  rw [h.repaired]
  rcases last with _ | m <;> rfl

/-- A repair leaves the one that was asked for, also where it was made already. -/
theorem Keeps.normalize (h : Keeps q es last) (maxId : Nat) :
    Keeps (q.normalize maxId) es (some maxId) := by
  unfold Equation.normalize
  rw [h.isRepairedFor]
  split
  · rename_i hlast
    rw [← beq_iff_eq.mp hlast]
    exact h
  · exact ⟨h.elements, by rw [h.elements]; rfl⟩

theorem Keeps.normalized? (h : Keeps q es last) :
    q.normalized? = last.map fun maxId => Formula.normalize maxId es := by
  unfold Equation.normalized?
  rw [h.repaired, Option.map_map]
  rfl

theorem Keeps.normalized (h : Keeps q es last) (maxId : Nat) :
    q.normalized maxId = Formula.normalize maxId es := by
  unfold Equation.normalized
  rw [(h.normalize maxId).normalized?]
  rfl

theorem Keeps.normalizeReports (h : Keeps q es last) (maxId : Nat) :
    q.normalizeReports maxId = if last = some maxId then []
      else Formula.normalizeReports maxId es (Formula.render es) := by
  unfold Equation.normalizeReports Equation.text
  rw [h.isRepairedFor, h.elements]
  simp only [beq_iff_eq]

/-- What is kept after some steps is told by the elements that were given last and by the repairs
that were asked for since. -/
theorem keeps_after (o : Origin) (steps : List Step) :
    Keeps (after o steps) (lastGiven o steps) (askedSince steps).head? := by
  induction steps using List.reverseRecOn with
  | nil => exact keeps_origin o
  | append_singleton steps t ih =>
    rw [after_append]
    cases t with
    | setElements es =>
      rw [lastGiven_setElements, askedSince_setElements]
      exact keeps_ofElements es
    | normalize maxId =>
      rw [lastGiven_normalize, askedSince_normalize]
      exact ih.normalize maxId
    | copy =>
      rw [lastGiven_copy, askedSince_copy]
      exact ih

/-- However an equation came about, its elements are those that were given last, and a repair gives
the one of these elements. The repair that is kept is the one that was asked for last, and there is
none if the elements were replaced since. A repair reports what the repair of the elements reports,
unless the same one was asked for last; then it reports nothing. -/
theorem the_repair_that_is_kept_never_shows (o : Origin) (steps : List Step) :
    (after o steps).elements = lastGiven o steps ∧
      (∀ maxId, (after o steps).normalized maxId =
        Formula.normalize maxId (lastGiven o steps)) ∧
      ((after o steps).normalized? = none ↔ askedSince steps = []) ∧
      (∀ maxId earlier, askedSince steps = maxId :: earlier →
        (after o steps).normalized? = some (Formula.normalize maxId (lastGiven o steps))) ∧
      ∀ maxId, (after o steps).normalizeReports maxId =
        if (askedSince steps).head? = some maxId then []
        else Formula.normalizeReports maxId (lastGiven o steps)
          (Formula.render (lastGiven o steps)) := by
  have h := keeps_after o steps
  refine ⟨h.elements, h.normalized, ?_, ?_, h.normalizeReports⟩
  · rw [h.normalized?, Option.map_eq_none_iff, List.head?_eq_none_iff]
  · intro maxId earlier he
    rw [h.normalized?, he]
    rfl

end Verdict.Equation
