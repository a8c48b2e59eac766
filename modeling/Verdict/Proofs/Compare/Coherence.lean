-- The six comparators that ask for an ordering. On two values that are there
-- they all follow one ordering, or all fail for one reason. Beside an absent
-- value nothing fails, and only the tests for equality can hold.
import Mathlib.Order.Compare
import Verdict.Compare

namespace Verdict

namespace TypedValue

variable {a b : TypedValue}

/-! ## One ordering -/

/-- Each of the six comparators answers what it says of the ordering. -/
def FollowsOrdering (a b : TypedValue) (o : Ordering) : Prop :=
  ∀ c : Comparator, c.isRelational = true → ∃ t, c.testOrdering? o = some t ∧ a.compare c b = .ok t

/-- None of the six comparators answers, and all for the same reason. -/
def FailsFor (a b : TypedValue) (fault : Fault) : Prop :=
  ∀ c : Comparator, c.isRelational = true → a.compare c b = .error fault

/-- Both comparators answer, and of the two always one holds. -/
def Opposed (a b : TypedValue) (c d : Comparator) : Prop :=
  ∃ t, a.compare c b = .ok t ∧ a.compare d b = .ok (!t)

/-- One of the values is a date or a duration, and the other is absent. -/
def temporalBesideAbsent (a b : TypedValue) : Bool :=
  (a.kind.isTemporal && b.isAbsent) || (b.kind.isTemporal && a.isAbsent)

theorem isAbsent_eq_false : a.isAbsent = false ↔ ∃ s, a.value = some s := by
  unfold isAbsent
  rw [Option.isNone_eq_false_iff, Option.isSome_iff_exists]

theorem isAbsent_eq_true : a.isAbsent = true ↔ a.value = none := Option.isNone_iff_eq_none

/-! ## Values that are there -/

theorem compare_of_present {s t : String} (ha : a.value = some s) (hb : b.value = some t)
    {c : Comparator} (hc : c.isRelational = true) :
    a.compare c b =
      (orderPresent a.kind s b.kind t).map fun o => (c.testOrdering? o).getD false := by
  have hcopy : c ≠ .copy := by
    rintro rfl
    cases hc
  unfold TypedValue.compare
  rw [if_neg hcopy, ha, hb]
  show comparePresent c a.kind s b.kind t = _
  unfold comparePresent
  rw [if_pos hc]
  cases orderPresent a.kind s b.kind t <;> rfl

theorem followsOrdering_of_present {s t : String} (ha : a.value = some s) (hb : b.value = some t)
    {o : Ordering} (ho : orderPresent a.kind s b.kind t = .ok o) : a.FollowsOrdering b o := by
  intro c hc
  have hsome : (c.testOrdering? o).isSome = true := (c.isSome_testOrdering? o).trans hc
  obtain ⟨t, ht⟩ := Option.isSome_iff_exists.mp hsome
  refine ⟨t, ht, ?_⟩
  rw [compare_of_present ha hb hc, ho]
  simp only [Except.map, ht, Option.getD_some]

theorem failsFor_of_present {s t : String} (ha : a.value = some s) (hb : b.value = some t)
    {fault : Fault} (hf : orderPresent a.kind s b.kind t = .error fault) :
    a.FailsFor b fault := by
  intro c hc
  rw [compare_of_present ha hb hc, hf]
  rfl

namespace FollowsOrdering

variable {o : Ordering}

theorem compare_eq (h : a.FollowsOrdering b o) {c : Comparator} {t : Bool}
    (ht : c.testOrdering? o = some t) : a.compare c b = .ok t := by
  have hc : c.isRelational = true := by
    rw [← c.isSome_testOrdering? o, ht]
    rfl
  obtain ⟨t', ht', h⟩ := h c hc
  rw [ht] at ht'
  cases ht'
  exact h

/-- Two comparators that say opposite things of every ordering are opposed. -/
theorem opposed (h : a.FollowsOrdering b o) {c d : Comparator}
    (hcd : ∀ o, ∃ t, c.testOrdering? o = some t ∧ d.testOrdering? o = some (!t)) :
    a.Opposed b c d := by
  obtain ⟨t, hc, hd⟩ := hcd o
  exact ⟨t, h.compare_eq hc, h.compare_eq hd⟩

/-- The comparator that holds of an ordering and of no other. -/
def strictOf : Ordering → Comparator
  | .lt => .lt
  | .eq => .eq
  | .gt => .gt

/-- Of less, equal and greater exactly one holds. -/
theorem existsUnique_strict (h : a.FollowsOrdering b o) :
    ∃! c, c ∈ [Comparator.lt, .eq, .gt] ∧ a.compare c b = .ok true := by
  refine ⟨strictOf o, ⟨by cases o <;> decide, h.compare_eq (by cases o <;> rfl)⟩, ?_⟩
  rintro c ⟨hc, htrue⟩
  have hstrict : ∀ c ∈ [Comparator.lt, .eq, .gt], c.isRelational = true ∧
      ∀ o, c.testOrdering? o = some true → c = strictOf o := by decide
  obtain ⟨hrel, hof⟩ := hstrict c hc
  obtain ⟨t, ht, hanswer⟩ := h c hrel
  rw [htrue] at hanswer
  cases hanswer
  exact hof o ht

end FollowsOrdering

/-! ## Absent values -/

theorem compare_of_absent (h : a.isAbsent = true ∨ b.isAbsent = true) (c : Comparator) :
    a.compare c b = .ok (decide (c = .copy) || compareAbsent c a b) := by
  unfold TypedValue.compare
  by_cases hc : c = .copy
  · rw [if_pos hc, decide_eq_true hc]
    rfl
  · rw [if_neg hc, decide_eq_false hc]
    rcases h with h | h
    · rw [isAbsent_eq_true.mp h]
      rfl
    · rw [isAbsent_eq_true.mp h]
      cases a.value <;> rfl

theorem compareAbsent_of_temporal (h : a.temporalBesideAbsent b = true) (c : Comparator) :
    compareAbsent c a b = false := if_pos h

theorem compareAbsent_of_not_temporal (h : a.temporalBesideAbsent b = false) (c : Comparator) :
    compareAbsent c a b =
      match c with
      | .eq => orderTexts (a.value.getD absentText) (b.value.getD absentText) == .eq
      | .ne => orderTexts (a.value.getD absentText) (b.value.getD absentText) != .eq
      | _ => false := if_neg (Bool.eq_false_iff.mp h)

/-! ## All values -/

/-- Of two values that are there, either all six comparators fail for one reason, or they follow
one ordering: exactly one of less, equal and greater holds, and the other three are their
opposites. If one of the values is absent then no comparator fails and the four that are not tests
for equality do not hold; the two tests for equality do not hold either if an absent value stands
beside a date or a duration, and are opposites otherwise. -/
theorem the_six_comparators_follow_one_ordering (a b : TypedValue) :
    (a.isAbsent = false → b.isAbsent = false →
      (∃ fault, a.FailsFor b fault) ∨
      ∃ o, a.FollowsOrdering b o ∧
        (∃! c, c ∈ [Comparator.lt, .eq, .gt] ∧ a.compare c b = .ok true) ∧
        a.Opposed b .le .gt ∧ a.Opposed b .ge .lt ∧ a.Opposed b .ne .eq) ∧
    (a.isAbsent = true ∨ b.isAbsent = true →
      (∀ c, ∃ t, a.compare c b = .ok t) ∧
      (∀ c ∈ [Comparator.lt, .gt, .le, .ge], a.compare c b = .ok false) ∧
      (a.temporalBesideAbsent b = true →
        a.compare .eq b = .ok false ∧ a.compare .ne b = .ok false) ∧
      (a.temporalBesideAbsent b = false → a.Opposed b .eq .ne)) := by
  constructor
  · intro ha hb
    obtain ⟨s, ha⟩ := isAbsent_eq_false.mp ha
    obtain ⟨t, hb⟩ := isAbsent_eq_false.mp hb
    rcases hp : orderPresent a.kind s b.kind t with fault | o
    · exact Or.inl ⟨fault, failsFor_of_present ha hb hp⟩
    · have h : a.FollowsOrdering b o := followsOrdering_of_present ha hb hp
      refine Or.inr ⟨o, h, h.existsUnique_strict, h.opposed ?_, h.opposed ?_, h.opposed ?_⟩
      all_goals
        intro o
        cases o <;> decide
  · intro h
    have hcompare := compare_of_absent h
    rcases htemporal : a.temporalBesideAbsent b with _ | _
    · have hanswer := compareAbsent_of_not_temporal htemporal
      refine ⟨fun c => ⟨_, hcompare c⟩, ?_, by simp, fun _ => ⟨_, hcompare .eq, ?_⟩⟩
      · intro c hc
        rw [hcompare c, hanswer]
        simp only [List.mem_cons, List.not_mem_nil, or_false] at hc
        rcases hc with rfl | rfl | rfl | rfl <;> rfl
      · rw [hcompare, hanswer, hanswer]
        rfl
    · have hanswer := compareAbsent_of_temporal htemporal
      have hfalse : ∀ c ≠ Comparator.copy, a.compare c b = .ok false := by
        intro c hc
        rw [hcompare c, hanswer c, decide_eq_false hc]
        rfl
      refine ⟨fun c => ⟨_, hcompare c⟩, ?_, fun _ => ⟨?_, ?_⟩, by simp⟩
      · intro c hc
        refine hfalse c ?_
        rintro rfl
        exact absurd hc (by decide)
      · exact hfalse .eq (by decide)
      · exact hfalse .ne (by decide)

/-- Two hours are more than ninety minutes whichever comparator asks, and beside an absent value
they are neither equal nor different. -/
theorem two_hours_follow_one_ordering :
    let a := present "2 Hours" .duration
    let b := present "90 minutes" .duration
    let none := absent .string
    a.isAbsent = false ∧ b.isAbsent = false ∧ none.isAbsent = true ∧
      a.temporalBesideAbsent none = true ∧ a.FollowsOrdering b .gt ∧
      a.compare .eq none = .ok false ∧ a.compare .ne none = .ok false := by
  intro a b none
  have hgreater : a.compare .gt b = .ok true := by decide +kernel
  obtain ⟨hpresent, -⟩ := the_six_comparators_follow_one_ordering a b
  obtain ⟨-, habsent⟩ := the_six_comparators_follow_one_ordering a none
  refine ⟨rfl, rfl, rfl, rfl, ?_, (habsent (Or.inr rfl)).2.2.1 rfl⟩
  rcases hpresent rfl rfl with ⟨fault, hfails⟩ | ⟨o, hfollows, -⟩
  · have hfail := hfails .gt rfl
    rw [hgreater] at hfail
    cases hfail
  · obtain ⟨t, ht, hanswer⟩ := hfollows .gt rfl
    rw [hgreater] at hanswer
    cases hanswer
    cases o with
    | gt => exact hfollows
    | lt | eq => cases ht

end TypedValue

end Verdict
