-- Operations on whole numbers. They are done on floating-point numbers: operands and
-- result are rounded to 53 binary digits, and the result is kept inside of 64 bits.
import Verdict.Condition
import Verdict.Proofs.Compare.Coherence
import Verdict.Proofs.Decimal.WholeTexts
import Verdict.Proofs.Value.Surroundings

namespace Verdict

/-! ## Limits -/

namespace Decimal

variable {n : Int}

theorem isShort_minInt64 : IsShort Text.minInt64 := ⟨1, 63, by decide, rfl⟩

/-- The largest number is rounded up, and held where it was. -/
theorem held_nearest_maxInt64 : held (nearest Text.maxInt64) = Text.maxInt64 := by
  decide +kernel

/-- What a whole number in text is as the result of an operation that does not change it. -/
theorem held_nearest_eq_iff (h : Text.inInt64 n = true) :
    held (nearest n) = n ↔ IsShort n ∨ n = Text.maxInt64 := by
  constructor
  · intro heq
    by_cases hhigh : Text.maxInt64 < nearest n
    · refine Or.inr ?_
      unfold held Text.minInt64 Text.maxInt64 at *
      omega
    by_cases hlow : nearest n < Text.minInt64
    · have hmin : n = Text.minInt64 := by
        unfold held Text.minInt64 Text.maxInt64 at *
        omega
      exact Or.inl (hmin ▸ isShort_minInt64)
    · have hrange : Text.inInt64 (nearest n) = true :=
        Text.inInt64_iff.mpr ⟨Int.not_lt.mp hlow, Int.not_lt.mp hhigh⟩
      rw [held_of_inInt64 hrange] at heq
      exact Or.inl ((nearest_eq_iff n).mp heq)
  · rintro (hshort | rfl)
    · rw [(nearest_eq_iff n).mpr hshort, held_of_inInt64 h]
    · exact held_nearest_maxInt64

theorem inInt64_held (n : Int) : Text.inInt64 (held n) = true := by
  refine Text.inInt64_iff.mpr ?_
  unfold held Text.minInt64 Text.maxInt64
  omega

variable {a b : Int} {op : ArithmeticOp} {f : Int → Int → Int}

/-- The rounded operands are not far from 64 bits, so the result stays far below the largest
floating-point number. -/
theorem Computes.moderate (hop : Computes op f) (ha : Text.inInt64 a = true)
    (hb : Text.inInt64 b = true) : Moderate (f (nearest a) (nearest b)) := by
  have hsize {n : Int} (hn : Text.inInt64 n = true) : (nearest n).natAbs ≤ 2 ^ 64 := by
    have hbounds := Text.inInt64_iff.mp hn
    have hdouble := natAbs_nearest_le n
    unfold Text.minInt64 Text.maxInt64 at hbounds
    omega
  have hfirst := hsize ha
  have hsecond := hsize hb
  unfold Moderate
  cases hop with
  | plus => simp only; omega
  | minus => simp only; omega
  | times =>
    rw [Int.natAbs_mul]
    exact Nat.lt_of_le_of_lt (Nat.mul_le_mul hfirst hsecond) (by decide)

end Decimal

/-! ## Results -/

namespace ValueNode

open Decimal (nearest held IsShort Computes)

variable {c : Context} {s t : String} {a b n : Int} {op : ArithmeticOp} {f : Int → Int → Int}

theorem found?_whole (hs : Kind.readInt? s = some a) :
    (literal .int s).found? c = some (.present s .int) := by
  refine found?_literal ?_
  unfold Kind.accepts
  rw [hs, Option.isSome_some]

theorem resolve_whole (hs : Kind.readInt? s = some a) :
    (literal .int s).resolve c = .present s .int := by
  rw [resolve_eq, found?_whole hs, Option.getD_some]

/-- The operands are rounded when they are read, and the exact result on them when it is made. -/
theorem resolve_operation (hs : Kind.readInt? s = some a) (ht : Kind.readInt? t = some b)
    (hop : Computes op f) :
    (compound .int op (literal .int s) (literal .int t)).resolve c =
      .present (Text.intText (held (nearest (f (nearest a) (nearest b))))) .int := by
  obtain ⟨x, hx, hxa⟩ := Decimal.exists_readFloat?_of_readInt? hs
  obtain ⟨y, hy, hyb⟩ := Decimal.exists_readFloat?_of_readInt? ht
  have hmoderate := hop.moderate (Decimal.inInt64_of_readInt? hs) (Decimal.inInt64_of_readInt? ht)
  obtain ⟨z, hz, hresult⟩ := hop.holdsWhole hxa hyb hmoderate
  rw [resolve_eq, found?_compound, found?_whole hs, found?_whole ht]
  unfold combined?
  simp only [Option.bind_eq_bind, Option.bind_some, Kind.isTemporal, Bool.false_eq_true, if_false,
    TypedValue.present, hx, hy, hz, numberText, if_true, Decimal.floorInt64_of_holds hresult,
    Option.getD_some]

/-! ## Conditions -/

/-- Two whole numbers are compared as they are, without rounding. -/
theorem outcome_eq {left right : ValueNode} (hleft : left.resolve c = .present s .int)
    (hright : right.resolve c = .present t .int) (hs : Kind.readInt? s = some a)
    (ht : Kind.readInt? t = some b) (id : Nat) :
    (Condition.ofOperands id left .eq right).outcome c = .ok (decide (a = b)) := by
  have horder : orderPresent .int s .int t = .ok (compare a b) := by
    show orderWholes s t = _
    rw [orderWholes, hs, ht]
  show (left.resolve c).compare .eq (right.resolve c) = _
  rw [hleft, hright]
  refine (TypedValue.followsOrdering_of_present rfl rfl horder).compare_eq ?_
  show some (compare a b == .eq) = _
  rw [Option.some_inj, Bool.eq_iff_iff, beq_iff_eq, Int.compare_eq_eq, decide_eq_true_iff]

/-- The sum is compared by its text. -/
theorem outcome_eq_sum_with_zero {zero : String} (hs : Kind.readInt? s = some n)
    (hzero : Kind.readInt? zero = some 0) (id : Nat) :
    (Condition.ofOperands id (literal .int s) .eq
      (compound .int .plus (literal .int s) (literal .int zero))).outcome c =
        .ok (decide (IsShort n ∨ n = Text.maxInt64)) := by
  have hsum : nearest (nearest n + nearest 0) = nearest n := by
    rw [show nearest 0 = 0 from rfl, Int.add_zero, Decimal.nearest_nearest]
  have hsecond := resolve_operation (c := c) hs hzero .plus
  have htext := Kind.readInt?_intText (Decimal.inInt64_held (nearest n))
  rw [hsum] at hsecond
  rw [outcome_eq (resolve_whole hs) hsecond hs htext, Except.ok.injEq, decide_eq_decide, eq_comm]
  exact Decimal.held_nearest_eq_iff (Decimal.inInt64_of_readInt? hs)

/-- A sum, a difference and a product of whole numbers: both operands are rounded to the nearest
number with at most 53 binary digits before zeros, then the exact result on them is rounded in the
same way, and kept inside of 64 bits. So nothing is lost if the operands and the exact result are
such numbers, in particular if none is above 2 ^ 53 in size. A number is found equal to its sum
with zero exactly if it is such a number or the largest one, while numbers without an operation
are compared as they are. -/
theorem operations_on_wholes_keep_53_digits {s t : String} {a b : Int}
    (hs : Kind.readInt? s = some a) (ht : Kind.readInt? t = some b) {op : ArithmeticOp}
    {f : Int → Int → Int} (hop : Computes op f) (c : Context) :
    let node := compound .int op (literal .int s) (literal .int t)
    node.resolve c =
        .present (Text.intText (held (nearest (f (nearest a) (nearest b))))) .int ∧
      ((∀ n ∈ [a, b, f a b], IsShort n) → Text.inInt64 (f a b) = true →
        node.resolve c = .present (Text.intText (f a b)) .int) ∧
      ((∀ n ∈ [a, b, f a b], n.natAbs ≤ 2 ^ 53) →
        node.resolve c = .present (Text.intText (f a b)) .int) ∧
      (∀ id, (Condition.ofOperands id (literal .int s) .eq (literal .int t)).outcome c =
        .ok (decide (a = b))) ∧
      ∀ id zero, Kind.readInt? zero = some 0 →
        (Condition.ofOperands id (literal .int s) .eq
          (compound .int .plus (literal .int s) (literal .int zero))).outcome c =
            .ok (decide (IsShort a ∨ a = Text.maxInt64)) := by
  intro node
  have hresult : node.resolve c = _ := resolve_operation hs ht hop
  have hexact (hshort : ∀ n ∈ [a, b, f a b], IsShort n) (hrange : Text.inInt64 (f a b) = true) :
      node.resolve c = .present (Text.intText (f a b)) .int := by
    have hkept (n : Int) (hn : n ∈ [a, b, f a b]) : nearest n = n :=
      (Decimal.nearest_eq_iff n).mpr (hshort n hn)
    rw [hresult, hkept a (by simp), hkept b (by simp), hkept (f a b) (by simp),
      Decimal.held_of_inInt64 hrange]
  refine ⟨hresult, hexact, fun hsmall => ?_, fun id => ?_, fun id zero hzero => ?_⟩
  · refine hexact (fun n hn => Decimal.isShort_of_le (hsmall n hn)) (Text.inInt64_iff.mpr ?_)
    have hsize := hsmall (f a b) (by simp)
    unfold Text.minInt64 Text.maxInt64
    omega
  · exact outcome_eq (resolve_whole hs) (resolve_whole ht) hs ht id
  · exact outcome_eq_sum_with_zero hs hzero id

/-- The least number as a product, and a number above 2 ^ 53 beside its sum with zero. -/
theorem the_least_whole_is_an_exact_product :
    let first := literal .int " +4611686018427387904"
    let node := compound .int .times first (literal .int "-2")
    Kind.readInt? " +4611686018427387904" = some 4611686018427387904 ∧
      Kind.readInt? "-2" = some (-2) ∧ Computes .times (· * ·) ∧
      node.resolve emptyContext = .present "-9223372036854775808" .int ∧
      (Condition.ofOperands 0 first .eq (compound .int .plus first (literal .int "0"))).outcome
        emptyContext = .ok true := by
  intro first node
  have hfirst : Kind.readInt? " +4611686018427387904" = some 4611686018427387904 := by
    decide +kernel
  have hsecond : Kind.readInt? "-2" = some (-2) := by decide +kernel
  obtain ⟨-, hexact, -, -, hzero⟩ :=
    operations_on_wholes_keep_53_digits hfirst hsecond .times emptyContext
  refine ⟨hfirst, hsecond, .times, ?_, ?_⟩
  · exact (hexact (by decide +kernel) (by decide +kernel)).trans (by decide +kernel)
  · exact (hzero 0 "0" (by decide +kernel)).trans (by decide +kernel)

/-- The sum with zero of the first whole number that needs 54 digits is another number. -/
theorem a_sum_with_zero_loses_the_last_digit :
    let odd := literal .int "9007199254740993"
    let sum := compound .int .plus odd (literal .int "0")
    sum.resolve emptyContext = .present "9007199254740992" .int ∧
      (Condition.ofOperands 0 odd .eq sum).outcome emptyContext = .ok false ∧
      ¬ ∀ (s t : String) (a b : Int) (op : ArithmeticOp) (f : Int → Int → Int),
        Kind.readInt? s = some a → Kind.readInt? t = some b → Computes op f →
        Text.inInt64 (f a b) = true →
        (compound .int op (literal .int s) (literal .int t)).resolve emptyContext =
          .present (Text.intText (f a b)) .int := by
  intro odd sum
  have hsum : sum.resolve emptyContext = .present "9007199254740992" .int := by decide +kernel
  refine ⟨hsum, by decide +kernel, fun hall => ?_⟩
  have hexact := hall "9007199254740993" "0" 9007199254740993 0 .plus (· + ·) (by decide +kernel)
    (by decide +kernel) .plus (by decide +kernel)
  exact absurd (hsum.symm.trans hexact) (by decide +kernel)

end ValueNode

end Verdict
