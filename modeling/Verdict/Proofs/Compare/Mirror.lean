-- Comparisons with the two values exchanged. Less turns into greater, and so
-- on, and then the answer is the same, or both comparisons fail for a reason of
-- the same group. Every manner of comparing keeps to this.
import Verdict.Proofs.Compare.Coherence
import Verdict.Proofs.Decimal.Difference

namespace Verdict

/-! ## Comparators -/

namespace Comparator

/-- The comparator that says of `b` and `a` what this one says of `a` and `b`. -/
def mirror : Comparator → Comparator
  | lt => gt
  | gt => lt
  | le => ge
  | ge => le
  | c => c

theorem isRelational_mirror (c : Comparator) : c.mirror.isRelational = c.isRelational := by
  cases c <;> rfl

theorem testOrdering?_mirror (c : Comparator) (o : Ordering) :
    c.mirror.testOrdering? o.swap = c.testOrdering? o := by
  cases c <;> cases o <;> rfl

end Comparator

/-! ## Orders -/

theorem Text.order_swap (as bs : List Char) : (Text.order as bs).swap = Text.order bs as := by
  induction as generalizing bs with
  | nil => cases bs <;> rfl
  | cons a as ih =>
    cases bs with
    | nil => rfl
    | cons b bs => rw [order, order, Ordering.swap_then, Nat.compare_swap, ih]

theorem Date.order_swap (d e : Date) : (d.order e).swap = e.order d := by
  unfold Date.order
  rw [Ordering.swap_then, Ordering.swap_then, Int.compare_swap, Nat.compare_swap,
    Nat.compare_swap]

theorem Moment.order_swap (m n : Moment) : (m.order n).swap = n.order m := by
  unfold Moment.order
  rw [Ordering.swap_then, Ordering.swap_then, Date.order_swap, Nat.compare_swap,
    Nat.compare_swap]

/-- Numbers that are close enough to be equal are so in both directions. -/
theorem orderFloats_swap (x y : Float) : (orderFloats x y).swap = orderFloats y x := by
  unfold orderFloats
  rw [Decimal.abs_sub_comm y x]
  by_cases hclose : (x - y).abs < tolerance
  · simp only [hclose, if_true]
    rfl
  · by_cases hxy : x < y
    · have hyx : ¬ y < x := Decimal.not_lt_of_lt hxy
      simp only [hclose, hxy, hyx, if_true, if_false]
      rfl
    · by_cases hyx : y < x
      · simp only [hclose, hxy, hyx, if_true, if_false]
        rfl
      · simp only [hclose, hxy, hyx, if_false]
        rfl

theorem orderTexts_swap (a b : String) : (orderTexts a b).swap = orderTexts b a :=
  Text.order_swap ..

/-! ## Orderings that may be missing -/

/-- Opposite orderings, or none for reasons of the same group. -/
def Mirrored : Except Fault Ordering → Except Fault Ordering → Prop
  | .ok o, .ok p => o.swap = p
  | .error f, .error g => f.kind = g.kind
  | _, _ => False

theorem mirrored_orderNumbers (a b : String) : Mirrored (orderNumbers a b) (orderNumbers b a) := by
  unfold orderNumbers
  rcases Decimal.readFloat? a with _ | x
  · rcases Decimal.readFloat? b with _ | y <;> rfl
  · rcases Decimal.readFloat? b with _ | y
    · rfl
    · exact orderFloats_swap x y

/-- If one of the texts is no whole number then both are compared as numbers, in both
directions. -/
theorem mirrored_orderWholes (a b : String) : Mirrored (orderWholes a b) (orderWholes b a) := by
  unfold orderWholes
  rcases Kind.readInt? a with _ | m
  · rcases Kind.readInt? b with _ | n <;> exact mirrored_orderNumbers a b
  · rcases Kind.readInt? b with _ | n
    · exact mirrored_orderNumbers a b
    · exact Int.compare_swap m n

theorem mirrored_orderDates (a b : String) : Mirrored (orderDates a b) (orderDates b a) := by
  unfold orderDates
  rcases Calendar.ofText? a with _ | m
  · rcases Calendar.ofText? b with _ | n <;> rfl
  · rcases Calendar.ofText? b with _ | n
    · rfl
    · exact Moment.order_swap m n

/-- A text that is no duration and a duration that is too long fail with reasons of one group. -/
theorem mirrored_orderSpans (a b : String) : Mirrored (orderSpans a b) (orderSpans b a) := by
  unfold orderSpans
  rcases Span.ofText? a with _ | s
  · rcases Span.ofText? b with _ | t <;> rfl
  · rcases Span.ofText? b with _ | t
    · rfl
    · dsimp only
      rcases s.totalMinutes? with _ | m
      · rcases t.totalMinutes? with _ | n <;> rfl
      · rcases t.totalMinutes? with _ | n
        · rfl
        · exact Int.compare_swap m n

theorem mirrored_orderAmounts (k : Kind) (a : String) (l : Kind) (b : String) :
    Mirrored (orderAmounts k a l b) (orderAmounts l b k a) := by
  unfold orderAmounts
  rcases amount? k a with _ | x
  · rcases amount? l b with _ | y <;> rfl
  · rcases amount? l b with _ | y
    · rfl
    · exact orderFloats_swap x y

theorem Manner.ofKinds_comm (k l : Kind) : Manner.ofKinds k l = Manner.ofKinds l k := by
  cases k <;> cases l <;> rfl

theorem mirrored_orderPresent (k : Kind) (a : String) (l : Kind) (b : String) :
    Mirrored (orderPresent k a l b) (orderPresent l b k a) := by
  unfold orderPresent
  rw [Manner.ofKinds_comm l k]
  cases Manner.ofKinds k l with
  | wholes => exact mirrored_orderWholes a b
  | numbers => exact mirrored_orderNumbers a b
  | dates => exact mirrored_orderDates a b
  | spans => exact mirrored_orderSpans a b
  | amounts => exact mirrored_orderAmounts k a l b
  | texts => exact orderTexts_swap a b

namespace TypedValue

variable {a b : TypedValue} {c : Comparator}

/-! ## Values -/

theorem isAbsent_cases (a b : TypedValue) :
    (∃ s t, a.value = some s ∧ b.value = some t) ∨ a.isAbsent = true ∨ b.isAbsent = true := by
  rcases ha : a.value with _ | s
  · exact Or.inr (Or.inl (isAbsent_eq_true.mpr ha))
  · rcases hb : b.value with _ | t
    · exact Or.inr (Or.inr (isAbsent_eq_true.mpr hb))
    · exact Or.inl ⟨s, t, rfl, rfl⟩

theorem temporalBesideAbsent_comm (a b : TypedValue) :
    b.temporalBesideAbsent a = a.temporalBesideAbsent b := Bool.or_comm ..

theorem compareAbsent_mirror (a b : TypedValue) (c : Comparator) :
    compareAbsent c.mirror b a = compareAbsent c a b := by
  rcases h : a.temporalBesideAbsent b with _ | _
  · have h' : b.temporalBesideAbsent a = false := (temporalBesideAbsent_comm a b).trans h
    rw [compareAbsent_of_not_temporal h, compareAbsent_of_not_temporal h',
      ← orderTexts_swap (a.value.getD absentText)]
    cases c <;> simp only [Comparator.mirror] <;>
      cases orderTexts (a.value.getD absentText) (b.value.getD absentText) <;> rfl
  · have h' : b.temporalBesideAbsent a = true := (temporalBesideAbsent_comm a b).trans h
    rw [compareAbsent_of_temporal h, compareAbsent_of_temporal h']

/-- Two values compared, and the same two exchanged and compared by the mirrored comparator: both
comparisons answer the same, or both fail and for reasons of the same group. -/
theorem exchanged_values_answer_the_mirrored_comparator (a b : TypedValue) (c : Comparator)
    (hc : c.isRelational = true) :
    (b.compare c.mirror a).mapError Fault.kind = (a.compare c b).mapError Fault.kind := by
  have hmirror : c.mirror.isRelational = true := c.isRelational_mirror.trans hc
  rcases isAbsent_cases a b with ⟨s, t, ha, hb⟩ | habsent
  · have h := mirrored_orderPresent a.kind s b.kind t
    rw [compare_of_present ha hb hc, compare_of_present hb ha hmirror]
    revert h
    rcases orderPresent a.kind s b.kind t with f | o <;>
      rcases orderPresent b.kind t a.kind s with g | p <;> intro h
    · exact congrArg Except.error h.symm
    · exact h.elim
    · exact h.elim
    · cases h
      simp only [Except.map, c.testOrdering?_mirror]
  · have hcopy : (decide (c.mirror = .copy)) = decide (c = .copy) := by
      cases c <;> rfl
    rw [compare_of_absent habsent, compare_of_absent habsent.symm, compareAbsent_mirror, hcopy]

/-- Three hours are more than the number 2.5, and so this number is less than three hours. -/
theorem hours_and_a_number_exchanged :
    let a := present "3 Hours" .duration
    let b := present "2.5" .float
    Comparator.gt.isRelational = true ∧ a.compare .gt b = .ok true ∧
      b.compare .lt a = .ok true := by
  intro a b
  have hgreater : a.compare .gt b = .ok true := by decide +kernel
  have hsame := exchanged_values_answer_the_mirrored_comparator a b .gt rfl
  rw [hgreater] at hsame
  refine ⟨rfl, hgreater, ?_⟩
  rcases hless : b.compare .lt a with fault | t
  · rw [show Comparator.gt.mirror = .lt from rfl, hless] at hsame
    cases hsame
  · rw [show Comparator.gt.mirror = .lt from rfl, hless] at hsame
    exact congrArg Except.ok (Except.ok.inj hsame)

end TypedValue

end Verdict
