-- Values and their kinds. A value that is found has a text of its kind, so that
-- it can be read again; only the result of an operation on numbers may be too
-- large for that.
import Verdict.Proofs.Calendar.RoundTrip
import Verdict.Proofs.Decimal.Fixed
import Verdict.Proofs.Decimal.Operations
import Verdict.Proofs.Span
import Verdict.Value.Resolve

namespace Verdict

/-! ## Texts of the kinds -/

namespace Kind

theorem accepts_infer (text : String) : accepts text (infer text) = true := by
  unfold infer
  split
  · assumption
  split
  · assumption
  split
  · assumption
  split
  · assumption
  · rfl

theorem accepts_text (m : Moment) : accepts m.text .date = true := by
  unfold accepts
  rw [Calendar.ofText?_text]
  rfl

theorem accepts_clockText (m : Moment) : accepts m.clockText .date = true := by
  unfold accepts
  rw [Calendar.ofText?_clockText]
  rfl

theorem accepts_span {s : Span} (h : Text.inInt64 s.amount = true) :
    accepts s.text .duration = true := by
  unfold accepts
  rw [Span.ofText?_text h]
  rfl

theorem readInt?_intText {n : Int} (h : Text.inInt64 n = true) :
    readInt? (Text.intText n) = some n := by
  have hblank : ∀ c ∈ Text.intDigits n, Text.isBlank c = false := by
    intro c hc
    cases n with
    | ofNat n => exact Text.isBlank_of_isDigit (Text.isDigit_of_mem_natDigits hc)
    | negSucc n =>
      rcases List.mem_cons.mp hc with rfl | hc
      · decide
      · exact Text.isBlank_of_isDigit (Text.isDigit_of_mem_natDigits hc)
  unfold readInt? Text.intText
  rw [String.toList_ofList, Text.trim_of_no_blank hblank, Text.readInt?_intDigits h]

theorem accepts_intText {n : Int} (h : Text.inInt64 n = true) :
    accepts (Text.intText n) .int = true := by
  unfold accepts
  rw [readInt?_intText h, Option.isSome_some]

/-- The text of a result is a number if the result is finite. -/
theorem accepts_fixed (places : Nat) (x : Float) :
    accepts (String.ofList (Decimal.fixed places x)) .float = Decimal.isFinite x := by
  unfold accepts
  rcases h : Decimal.isFinite x with _ | _
  · simp only [Decimal.readFloat?_fixed_of_not_finite h, Option.isSome_none]
  · exact Decimal.isSome_readFloat?_fixed h places

end Kind

theorem Decimal.inInt64_floorInt64 (x : Float) : Text.inInt64 (Decimal.floorInt64 x) = true := by
  refine Text.inInt64_iff.mpr ?_
  unfold Decimal.floorInt64 Text.minInt64 Text.maxInt64
  split
  · omega
  · split
    · split <;> omega
    · omega

/-! ## Values that are found -/

namespace ValueNode

variable {c : Context}

/-- The number that an operation on two values comes to. -/
def operation? (c : Context) (op : ArithmeticOp) (left right : ValueNode) : Option Float := do
  let first ← (left.value c).toOption
  let a ← (number left first).toOption
  let second ← (right.value c).toOption
  let b ← (number right second).toOption
  op.result? a b

/-- The number of a value of kind `float` that is the result of an operation. A date or a duration
without an operator is what its first child is. -/
def floatResult? (c : Context) : ValueNode → Option Float
  | compound kind op left right =>
    if kind.isTemporal then (if op = .first then left.floatResult? c else none)
    else if kind = .float then operation? c op left right
    else none
  | _ => none

theorem exists_of_bind_eq_ok {α β : Type} {r : Except Fault α} {f : α → Except Fault β} {b : β}
    (h : r >>= f = .ok b) : ∃ a, r = .ok a ∧ f a = .ok b := by
  cases r with
  | error fault => cases h
  | ok a => exact ⟨a, rfl, h⟩

/-- What an operation on numbers gives. -/
theorem numeric_inversion {kind : Kind} {op : ArithmeticOp} {left right : ValueNode}
    {v : TypedValue} (hkind : kind.isTemporal = false)
    (h : (compound kind op left right).value c = .ok v) :
    ∃ x, operation? c op left right = some x ∧ v = .present (numberText c.places kind x) kind := by
  rw [value] at h
  obtain ⟨first, hfirst, h⟩ := exists_of_bind_eq_ok h
  rw [if_neg (by simp [hkind])] at h
  obtain ⟨a, ha, h⟩ := exists_of_bind_eq_ok h
  obtain ⟨second, hsecond, h⟩ := exists_of_bind_eq_ok h
  obtain ⟨b, hb, h⟩ := exists_of_bind_eq_ok h
  have hoperation : operation? c op left right = op.result? a b := by
    unfold operation?
    rw [hfirst, hsecond]
    simp only [Except.toOption, Option.bind_eq_bind, Option.bind_some, ha, hb]
  rcases hx : op.result? a b with _ | x
  · simp [hx] at h
  · simp only [hx] at h
    cases h
    exact ⟨x, hoperation.trans hx, rfl⟩

/-- What an operation on dates and durations gives. -/
theorem temporalValue_inversion {first second v : TypedValue} {op : ArithmeticOp}
    (h : temporalValue first op second = .ok v) :
    (∃ m : Moment, v = .present m.text .date) ∨
      ∃ s : Span, Text.inInt64 s.amount = true ∧ v = .present s.text .duration := by
  unfold temporalValue at h
  obtain ⟨negate, -, h⟩ := exists_of_bind_eq_ok h
  simp only at h
  split at h
  · split at h
    · cases h
      exact Or.inr ⟨_, Span.inInt64_between _ _, rfl⟩
    · cases h
  · split at h
    · rename_i hcombine
      cases h
      exact Or.inr ⟨_, Span.inInt64_combine? hcombine, rfl⟩
    · cases h
  · split at h
    · unfold shifted at h
      split at h
      · cases h
        exact Or.inl ⟨_, rfl⟩
      · cases h
    · cases h
  · cases h

/-- By induction on the value: only a date or a duration without an operator depends on what was
found for its child. -/
theorem accepts_iff (c : Context) (node : ValueNode) {v : TypedValue} {text : String}
    (h : node.value c = .ok v) (htext : v.value = some text) :
    v.kind.accepts text = true ↔
      ∀ x, node.floatResult? c = some x → Decimal.isFinite x = true := by
  induction node generalizing v with
  | literal kind t =>
    refine iff_of_true ?_ fun x hx => by cases hx
    rw [value] at h
    unfold literalValue at h
    split at h
    · cases h
      cases htext
      exact Kind.accepts_clockText c.now
    split at h
    · cases h
      cases htext
      assumption
    · cases h
  | field name =>
    refine iff_of_true ?_ fun x hx => by cases hx
    rw [value] at h
    cases h
    unfold fieldValue at htext ⊢
    split at htext
    · cases htext
      exact Kind.accepts_infer text
    · cases htext
  | compound kind op left right ihl ihr =>
    by_cases hkind : kind.isTemporal = true
    · by_cases hop : op = .first
      · rw [value] at h
        obtain ⟨first, hfirst, h⟩ := exists_of_bind_eq_ok h
        rw [if_pos hkind, if_pos hop] at h
        cases h
        rw [floatResult?, if_pos hkind, if_pos hop]
        exact ihl hfirst htext
      · rw [value] at h
        obtain ⟨first, -, h⟩ := exists_of_bind_eq_ok h
        rw [if_pos hkind, if_neg hop] at h
        obtain ⟨second, -, h⟩ := exists_of_bind_eq_ok h
        rw [floatResult?, if_pos hkind, if_neg hop]
        refine iff_of_true ?_ fun x hx => by cases hx
        rcases temporalValue_inversion h with ⟨m, rfl⟩ | ⟨s, hs, rfl⟩
        · cases htext
          exact Kind.accepts_text m
        · cases htext
          exact Kind.accepts_span hs
    · obtain ⟨x, hx, rfl⟩ := numeric_inversion (by simpa using hkind) h
      cases htext
      rw [floatResult?, if_neg hkind]
      unfold numberText
      cases kind with
      | float =>
        simp [TypedValue.present, Kind.accepts_fixed, hx]
      | int =>
        refine iff_of_true ?_ fun x hx => by cases hx
        exact Kind.accepts_intText (Decimal.inInt64_floorInt64 x)
      | string => exact iff_of_true rfl fun x hx => by cases hx
      | field => exact iff_of_true rfl fun x hx => by cases hx
      | date => exact absurd rfl hkind
      | duration => exact absurd rfl hkind

theorem isFinite_of_number {node : ValueNode} {v : TypedValue} {x : Float}
    (h : number node v = .ok x) : Decimal.isFinite x = true := by
  unfold number at h
  split at h
  · cases h
  · split at h
    · rename_i hread
      cases h
      unfold Decimal.readFloat? at hread
      split at hread
      · cases hread
      · split at hread
        · cases hread
          assumption
        · cases hread
    · cases h

/-- The operands are finite, so a result that is not is an infinity. -/
theorem isInfinite_of_operation? {op : ArithmeticOp} {left right : ValueNode} {x : Float}
    (h : operation? c op left right = some x) (hlarge : Decimal.isFinite x = false) :
    Decimal.isInfinite x = true := by
  have hfinite : ∀ {node : ValueNode} {v : TypedValue} {y : Float},
      (number node v).toOption = some y → Decimal.isFinite y = true := by
    intro node v y hy
    rcases hn : number node v with _ | z
    · rw [hn] at hy
      cases hy
    · rw [hn] at hy
      cases hy
      exact isFinite_of_number hn
  unfold operation? at h
  obtain ⟨first, -, h⟩ := Option.bind_eq_some_iff.mp h
  obtain ⟨a, ha, h⟩ := Option.bind_eq_some_iff.mp h
  obtain ⟨second, -, h⟩ := Option.bind_eq_some_iff.mp h
  obtain ⟨b, hb, h⟩ := Option.bind_eq_some_iff.mp h
  exact Decimal.isInfinite_of_result? (hfinite ha) (hfinite hb) h hlarge

/-- The value that a result is shown as. -/
theorem value_of_floatResult? {node : ValueNode} {v : TypedValue} {x : Float}
    (h : node.value c = .ok v) (hx : node.floatResult? c = some x) :
    v = .present (String.ofList (Decimal.fixed c.places x)) .float ∧
      ∃ op left right, operation? c op left right = some x := by
  induction node generalizing v with
  | literal kind t => cases hx
  | field name => cases hx
  | compound kind op left right ihl ihr =>
    rw [floatResult?] at hx
    split at hx
    · rename_i hkind
      split at hx
      · rename_i hop
        rw [value] at h
        obtain ⟨first, hfirst, h⟩ := exists_of_bind_eq_ok h
        rw [if_pos hkind, if_pos hop] at h
        cases h
        exact ihl hfirst hx
      · cases hx
    · split at hx
      · rename_i hfloat
        subst hfloat
        obtain ⟨y, hy, rfl⟩ := numeric_inversion rfl h
        rw [hx] at hy
        cases hy
        exact ⟨rfl, op, left, right, hx⟩
      · cases hx

theorem fixed_of_isInfinite {x : Float} (hlarge : Decimal.isFinite x = false)
    (h : Decimal.isInfinite x = true) (places : Nat) :
    String.ofList (Decimal.fixed places x) = "inf" ∨
      String.ofList (Decimal.fixed places x) = "-inf" := by
  unfold Decimal.fixed
  rw [hlarge, h]
  cases Decimal.isNegative x with
  | false => exact Or.inl rfl
  | true => exact Or.inr rfl

theorem value_of_resolve {node : ValueNode} {text : String}
    (h : (node.resolve c).value = some text) : node.value c = .ok (node.resolve c) := by
  unfold resolve at h ⊢
  rcases hvalue : node.value c with fault | v
  · rw [hvalue] at h
    cases h
  · rfl

/-- A value that is found can be read as one of its kind, unless it is the result of an operation
on numbers that is too large. Then its text is that of an infinity. -/
theorem a_value_can_be_read_again_unless_its_number_is_too_large {c : Context} {node : ValueNode}
    {text : String} (h : (node.resolve c).value = some text) :
    ((node.resolve c).kind.accepts text = true ↔
      ∀ x, node.floatResult? c = some x → Decimal.isFinite x = true) ∧
    ((node.resolve c).kind.accepts text = false →
      (node.resolve c).kind = .float ∧ (text = "inf" ∨ text = "-inf")) := by
  have hvalue := value_of_resolve h
  have haccepts := accepts_iff c node hvalue h
  refine ⟨haccepts, fun hrefused => ?_⟩
  have hlarge : ∃ x, node.floatResult? c = some x ∧ Decimal.isFinite x = false := by
    by_contra hnone
    have hall : ∀ x, node.floatResult? c = some x → Decimal.isFinite x = true := by
      intro x hx
      by_contra hx'
      exact hnone ⟨x, hx, Bool.eq_false_iff.mpr hx'⟩
    rw [haccepts.mpr hall] at hrefused
    cases hrefused
  obtain ⟨x, hx, hlarge⟩ := hlarge
  obtain ⟨hv, op, left, right, hoperation⟩ := value_of_floatResult? hvalue hx
  have htext := fixed_of_isInfinite hlarge (isInfinite_of_operation? hoperation hlarge) c.places
  rw [hv] at h ⊢
  cases h
  exact ⟨rfl, htext⟩

/-- No field, and a day to stand for the present. -/
def emptyContext : Context where
  record := .fields []
  now := .midnight ⟨2024, 2, 29, by decide⟩

theorem a_product_is_read_again :
    let node := compound .float .times (.literal .float "1e308") (.literal .int "-1")
    ∃ text, (node.resolve emptyContext).value = some text ∧
      (node.resolve emptyContext).kind = .float ∧ Kind.float.accepts text = true := by
  intro node
  have hpresent : (node.resolve emptyContext).value.isSome = true := by decide +kernel
  have hkind : (node.resolve emptyContext).kind = .float := by decide +kernel
  have hfinite : (node.floatResult? emptyContext).all Decimal.isFinite = true := by decide +kernel
  obtain ⟨text, htext⟩ := Option.isSome_iff_exists.mp hpresent
  obtain ⟨haccepts, -⟩ := a_value_can_be_read_again_unless_its_number_is_too_large htext
  rw [hkind] at haccepts
  refine ⟨text, htext, hkind, haccepts.mpr fun x hx => ?_⟩
  rw [hx] at hfinite
  exact hfinite

/-- The tenfold of a large number is found as a number, but no number can be read from its text,
and nothing is found for a value that holds it. -/
theorem the_text_of_a_large_product_is_no_number :
    let node := compound .float .times (.literal .float "1e308") (.literal .float "10")
    node.resolve emptyContext = .present "inf" .float ∧ Kind.float.accepts "inf" = false ∧
      ((compound .float .plus node (.literal .int "1")).resolve emptyContext).isAbsent = true ∧
      ¬ ∀ (c : Context) (node : ValueNode) (text : String),
        (node.resolve c).value = some text → (node.resolve c).kind.accepts text = true := by
  intro node
  have hfound : node.resolve emptyContext = .present "inf" .float := by decide +kernel
  have hrefused : Kind.float.accepts "inf" = false := by decide +kernel
  refine ⟨hfound, hrefused, by decide +kernel, fun hall => ?_⟩
  have haccepts := hall emptyContext node "inf" (by rw [hfound]; rfl)
  rw [hfound] at haccepts
  exact Bool.false_ne_true (hrefused.symm.trans haccepts)

end ValueNode

end Verdict
