-- Values inside of values. What is found for a value depends on its parts only by
-- what is found for them. So a part can be exchanged for its value, and what is
-- missing in a part is missing in the whole.
import Verdict.Proofs.Value.Inference

namespace Verdict

/-- No date stands for the present. -/
theorem Kind.not_today {text : String} (h : accepts text .date = true) :
    Text.sameName text "today" = false := by
  obtain ⟨m, hm⟩ := Option.isSome_iff_exists.mp h
  have hmark : ∃ c ∈ Text.trim text.toList, c = '-' ∨ c = '/' := by
    rcases Calendar.head?_of_read? hm with hmark | hmark
    · exact ⟨_, Text.mem_of_mem_behindNumber (List.mem_of_mem_head? hmark), Or.inl rfl⟩
    · exact ⟨_, Text.mem_of_mem_behindNumber (List.mem_of_mem_head? hmark), Or.inr rfl⟩
  obtain ⟨c, hc, hmark⟩ := hmark
  rw [← Bool.not_eq_true]
  intro hsame
  have hform : (Text.nameForm text).toList = ['t', 'o', 'd', 'a', 'y'] := by
    rw [beq_iff_eq.mp hsame]
    decide +kernel
  have hmem : Text.asciiLower c ∈ (Text.nameForm text).toList := by
    unfold Text.nameForm
    rw [String.toList_ofList]
    exact List.mem_map_of_mem hc
  rw [hform] at hmem
  rcases hmark with rfl | rfl
  · exact absurd hmem (by decide)
  · exact absurd hmem (by decide)

namespace ValueNode

variable {c : Context} {node part other : ValueNode} {kind k : Kind} {op : ArithmeticOp}
  {text : String} {v w : TypedValue} {first second : Option TypedValue}

/-! ## What is found -/

/-- What is found for a value. There is nothing if it cannot be resolved. -/
def found? (c : Context) (node : ValueNode) : Option TypedValue := (node.value c).toOption

theorem resolve_eq (c : Context) (node : ValueNode) :
    node.resolve c = (node.found? c).getD (.absent node.fallbackKind) := by
  unfold resolve found?
  cases node.value c <;> rfl

theorem found?_of_resolve (h : node.resolve c = .present text k) :
    node.found? c = some (.present text k) := by
  have htext : (node.resolve c).value = some text := by rw [h]; rfl
  unfold found?
  rw [value_of_resolve htext, h]
  rfl

/-- A literal is found as it is if its text is one of its kind. -/
theorem found?_literal (h : k.accepts text = true) :
    (literal k text).found? c = some (.present text k) := by
  have htoday : isToday k text = false := by
    unfold isToday
    cases k with
    | date => exact Kind.not_today h
    | string | int | float | duration | field => rfl
  unfold found?
  rw [value, literalValue, htoday, if_neg Bool.false_ne_true, if_pos h]
  rfl

/-! ## Operations -/

/-- What is found for an operation, by what is found for its operands. -/
def combined? (c : Context) (kind : Kind) (op : ArithmeticOp)
    (first second : Option TypedValue) : Option TypedValue := do
  let v ← first
  if kind.isTemporal then
    if op = .first then some v
    else
      let w ← second
      (temporalValue v op w).toOption
  else
    let a ← v.value.bind Decimal.readFloat?
    let w ← second
    let b ← w.value.bind Decimal.readFloat?
    let x ← op.result? a b
    some (.present (numberText c.places kind x) kind)

theorem toOption_bind {α β : Type} (r : Except Fault α) (f : α → Except Fault β) :
    (r >>= f).toOption = r.toOption.bind fun a => (f a).toOption := by
  cases r <;> rfl

theorem toOption_number (node : ValueNode) (v : TypedValue) :
    (number node v).toOption = v.value.bind Decimal.readFloat? := by
  unfold number
  rcases v.value with _ | text
  · rfl
  · simp only [Option.bind_some]
    cases Decimal.readFloat? text <;> rfl

/-- The operands count by what is found for them. -/
theorem found?_compound (c : Context) (kind : Kind) (op : ArithmeticOp) (left right : ValueNode) :
    (compound kind op left right).found? c =
      combined? c kind op (left.found? c) (right.found? c) := by
  unfold found? combined?
  rw [value, toOption_bind]
  refine Option.bind_congr fun v _ => ?_
  split
  · split
    · rfl
    · rw [toOption_bind]
      rfl
  · rw [toOption_bind, toOption_number]
    refine Option.bind_congr fun a _ => ?_
    rw [toOption_bind]
    refine Option.bind_congr fun w _ => ?_
    rw [toOption_bind, toOption_number]
    refine Option.bind_congr fun b _ => ?_
    cases op.result? a b <;> rfl

/-! ## Operations on what is missing -/

/-- Nothing is found, or a field that is not there. -/
theorem isAbsent_resolve_iff :
    (node.resolve c).isAbsent = true ↔ (node.found? c).bind TypedValue.value = none := by
  rw [resolve_eq, TypedValue.isAbsent, Option.isNone_iff_eq_none]
  cases node.found? c <;> rfl

theorem temporalValue_of_none (h : temporal? v = none ∨ temporal? w = none) :
    (temporalValue v op w).toOption = none := by
  unfold temporalValue
  rw [toOption_bind]
  rcases (subtracts op).toOption with _ | negate
  · rfl
  · rcases h with h | h
    · simp only [h, Option.bind_some]
      rfl
    · simp only [h, Option.bind_some]
      rcases temporal? v with _ | (m | s)
      · rfl
      · rfl
      · rfl

theorem temporal?_of_none (h : v.value = none) : temporal? v = none := by
  rw [temporal?, h, Option.bind_none]

theorem combined?_of_first (h : first.bind TypedValue.value = none) :
    (combined? c kind op first second).bind TypedValue.value = none := by
  rcases first with _ | v
  · rfl
  rw [Option.bind_some] at h
  simp only [combined?, Option.bind_eq_bind, Option.bind_some]
  split
  · split
    · exact h
    · rcases second with _ | w
      · rfl
      · rw [Option.bind_some, temporalValue_of_none (Or.inl (temporal?_of_none h))]
        rfl
  · rw [h]
    rfl

theorem combined?_of_second (h : second.bind TypedValue.value = none)
    (hused : ¬ (kind.isTemporal = true ∧ op = .first)) :
    (combined? c kind op first second).bind TypedValue.value = none := by
  rcases first with _ | v
  · rfl
  simp only [combined?, Option.bind_eq_bind, Option.bind_some]
  rcases second with _ | w
  · split
    · split
      · exact absurd ⟨‹_›, ‹_›⟩ hused
      · rfl
    · cases v.value.bind Decimal.readFloat? <;> rfl
  rw [Option.bind_some] at h
  split
  · split
    · exact absurd ⟨‹_›, ‹_›⟩ hused
    · rw [Option.bind_some, temporalValue_of_none (Or.inr (temporal?_of_none h))]
      rfl
  · cases v.value.bind Decimal.readFloat? with
    | none => rfl
    | some a =>
      rw [Option.bind_some, Option.bind_some, h]
      rfl

/-! ## Surroundings -/

/-- A value in which one part is left open, at any depth. -/
inductive Surroundings where
  /-- The open part is the whole value. -/
  | whole
  | leftOf (kind : Kind) (op : ArithmeticOp) (inner : Surroundings) (right : ValueNode)
  | rightOf (kind : Kind) (op : ArithmeticOp) (left : ValueNode) (inner : Surroundings)

namespace Surroundings

/-- The value with a part put in. -/
def fill (part : ValueNode) : Surroundings → ValueNode
  | whole => part
  | leftOf kind op inner right => compound kind op (inner.fill part) right
  | rightOf kind op left inner => compound kind op left (inner.fill part)

/-- All operations on the way to the open part look at what is found there. Only the second operand
of a date or a duration without an operator is not looked at. -/
def IsUsed : Surroundings → Prop
  | whole => True
  | leftOf _ _ inner _ => inner.IsUsed
  | rightOf kind op _ inner => ¬ (kind.isTemporal = true ∧ op = .first) ∧ inner.IsUsed

/-- By induction from the outside: parts for which the same is found can be exchanged. -/
theorem found?_fill (s : Surroundings) (h : part.found? c = other.found? c) :
    (s.fill part).found? c = (s.fill other).found? c := by
  induction s with
  | whole => exact h
  | leftOf kind op inner right ih => rw [fill, fill, found?_compound, found?_compound, ih]
  | rightOf kind op left inner ih => rw [fill, fill, found?_compound, found?_compound, ih]

/-- Also if nothing is found for the whole value, since it keeps its own kind. -/
theorem resolve_fill (s : Surroundings) (h : part.found? c = other.found? c)
    (hfound : (part.found? c).isSome = true) :
    (s.fill part).resolve c = (s.fill other).resolve c := by
  rw [resolve_eq, resolve_eq, ← s.found?_fill h]
  cases s with
  | whole =>
    obtain ⟨v, hv⟩ := Option.isSome_iff_exists.mp hfound
    rw [fill, hv, Option.getD_some, Option.getD_some]
  | leftOf kind op inner right => rfl
  | rightOf kind op left inner => rfl

/-- What is not found for a part is not made up for by the operations around it. -/
theorem isAbsent_fill (s : Surroundings) (hs : s.IsUsed)
    (h : (part.resolve c).isAbsent = true) : ((s.fill part).resolve c).isAbsent = true := by
  rw [isAbsent_resolve_iff] at h ⊢
  induction s with
  | whole => exact h
  | leftOf kind op inner right ih =>
    rw [fill, found?_compound]
    exact combined?_of_first (ih hs)
  | rightOf kind op left inner ih =>
    rw [fill, found?_compound]
    exact combined?_of_second (ih hs.2) hs.1

end Surroundings

/-- A part of a value, at any depth, that is found with a text of its kind can be exchanged for the
literal of this kind with this text. The whole value stays what it is, found or not. -/
theorem a_part_can_be_exchanged_for_its_value {c : Context} {part : ValueNode} {kind : Kind}
    {text : String} (h : part.resolve c = .present text kind) (htext : kind.accepts text = true)
    (s : Surroundings) : (s.fill (literal kind text)).resolve c = (s.fill part).resolve c := by
  have hpart := found?_of_resolve h
  have hliteral : (literal kind text).found? c = some (.present text kind) := found?_literal htext
  exact s.resolve_fill (hliteral.trans hpart.symm) (by rw [hliteral]; rfl)

/-- Two days after the 28th of February, inside of a difference of dates inside of a sum. -/
theorem a_moved_date_can_be_exchanged :
    let c : Context := { emptyContext with record := .fields [("wait", "2 days")] }
    let part := compound .date .plus (literal .date "2024-02-28") (field "wait")
    let s : Surroundings := .leftOf .duration .plus
      (.leftOf .duration .minus .whole (literal .date "2024-01-01")) (literal .duration "90 min")
    part.resolve c = .present "2024-03-01" .date ∧ Kind.date.accepts "2024-03-01" = true ∧
      (s.fill (literal .date "2024-03-01")).resolve c = (s.fill part).resolve c ∧
      (s.fill part).resolve c = .present "86490 Minutes" .duration := by
  intro c part s
  have hpart : part.resolve c = .present "2024-03-01" .date := by decide +kernel
  have htext : Kind.date.accepts "2024-03-01" = true := by decide +kernel
  have hfill := a_part_can_be_exchanged_for_its_value hpart htext s
  exact ⟨hpart, htext, hfill, hfill.symm.trans (by decide +kernel)⟩

end ValueNode

end Verdict
