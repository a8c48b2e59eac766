-- Differences of floating-point numbers and their order. The size of a
-- difference does not depend on its direction, and the order of two numbers
-- turns around with them. Both hold of infinities and failed results too.
import Mathlib

namespace Verdict.Decimal

open Float.Model Float.Model.UnpackedFloat

/-! ## The size of a result -/

/-- The same number but for the sign. -/
def SameSize (x y : UnpackedFloat) : Prop := x.abs = y.abs

theorem sameSize_roundWithAccuracy (spec : Format) (s t : Sign) (m : Nat) (e : Int)
    (acc : Accuracy) :
    SameSize (roundWithAccuracy spec s m e acc) (roundWithAccuracy spec t m e acc) := by
  unfold SameSize roundWithAccuracy
  dsimp only
  split <;> rfl

theorem sameSize_normalize_neg (spec : Format) (m e : Int) (zero : Sign) :
    SameSize (UnpackedFloat.normalize spec (-m) e zero)
      (UnpackedFloat.normalize spec m e zero) := by
  unfold UnpackedFloat.normalize
  rcases Int.lt_trichotomy m 0 with h | h | h
  · have hneg : compare (-m) 0 = .gt := Int.compare_eq_gt.mpr (by omega)
    have hpos : compare m 0 = .lt := Int.compare_eq_lt.mpr h
    simp only [hneg, hpos]
    exact sameSize_roundWithAccuracy ..
  · subst h
    rfl
  · have hneg : compare (-m) 0 = .lt := Int.compare_eq_lt.mpr (by omega)
    have hpos : compare m 0 = .gt := Int.compare_eq_gt.mpr h
    simp only [hneg, hpos, Int.neg_neg]
    exact sameSize_roundWithAccuracy ..

/-- With the operands the difference of their aligned mantissas changes its sign, and nothing
else. -/
theorem sameSize_sub (spec : Format) (x y : UnpackedFloat) :
    SameSize (x.sub spec y) (y.sub spec x) := by
  cases x with
  | finite s m e hm =>
    cases y with
    | finite t n f hn =>
      unfold UnpackedFloat.sub
      dsimp only
      rw [Int.min_comm f e, ← Int.neg_sub]
      exact sameSize_normalize_neg ..
    | _ => rfl
  | zero s =>
    cases y with
    | zero t => cases s <;> cases t <;> rfl
    | _ => rfl
  | infinity s =>
    cases y with
    | infinity t => cases s <;> cases t <;> rfl
    | _ => rfl
  | notANumber => cases y <;> rfl

/-! ## The bits of a result -/

theorem sameSize_packComponents (spec : Format) (s t : Sign) (exponent : BitVec spec.exponentBits)
    (mantissa : BitVec spec.mantissaBitsWithoutImplicit) :
    SameSize (UnpackedFloat.unpack spec (packComponents spec s exponent mantissa))
      (UnpackedFloat.unpack spec (packComponents spec t exponent mantissa)) := by
  unfold SameSize UnpackedFloat.unpack
  simp only [unpackExponent_packComponents, unpackMantissa_packComponents]
  split
  · split <;> rfl
  · split
    · split <;> rfl
    · rfl

/-- The sign stands before the bits of the exponent and the mantissa, which are the same for
numbers of the same size. -/
theorem SameSize.unpack_pack (spec : Format) {x y : UnpackedFloat} (h : SameSize x y) :
    SameSize (UnpackedFloat.unpack spec (x.pack spec))
      (UnpackedFloat.unpack spec (y.pack spec)) := by
  cases x with
  | notANumber =>
    cases y with
    | notANumber => rfl
    | _ => cases h
  | infinity s =>
    cases y with
    | infinity t => exact sameSize_packComponents spec s t _ _
    | _ => cases h
  | zero s =>
    cases y with
    | zero t => exact sameSize_packComponents spec s t _ _
    | _ => cases h
  | finite s m e hm =>
    cases y with
    | finite t n f hn =>
      cases h
      unfold UnpackedFloat.pack
      dsimp only
      split
      · exact sameSize_packComponents spec s t _ _
      · split <;> exact sameSize_packComponents spec s t _ _
    | _ => cases h

theorem abs_sub_comm (a b : Float) : (a - b).abs = (b - a).abs := by
  have hsub : SameSize (a.toModel.unpack.sub .binary64 b.toModel.unpack)
      (b.toModel.unpack.sub .binary64 a.toModel.unpack) := sameSize_sub ..
  have hmodel : (a.toModel - b.toModel).abs = (b.toModel - a.toModel).abs :=
    congrArg Float.Model.pack (hsub.unpack_pack .binary64)
  exact congrArg Float.ofModel hmodel

/-! ## The order of numbers -/

theorem compare_sign_swap (s t : Sign) : (compare s t).swap = compare t s := by
  cases s <;> cases t <;> rfl

theorem compare_finite_swap (m n : Nat) (e f : Int) :
    ((compare e f).then (compare m n)).swap = (compare f e).then (compare n m) := by
  rw [Ordering.swap_then, Int.compare_swap, Nat.compare_swap]

theorem compare_unpacked_swap (x y : UnpackedFloat) :
    (x.compare y).map Ordering.swap = y.compare x := by
  cases x with
  | notANumber => cases y <;> rfl
  | infinity s =>
    cases y with
    | infinity t => exact congrArg some (compare_sign_swap s t)
    | _ => cases s <;> rfl
  | zero s =>
    cases y with
    | infinity t => cases t <;> rfl
    | finite t n f hn => cases t <;> rfl
    | _ => rfl
  | finite s m e hm =>
    cases y with
    | finite t n f hn =>
      cases s <;> cases t
      · exact congrArg (some ∘ Ordering.swap) (compare_finite_swap m n e f)
      · rfl
      · rfl
      · exact congrArg some (compare_finite_swap m n e f)
    | infinity t => cases t <;> rfl
    | zero t => cases s <;> rfl
    | notANumber => rfl

theorem lt_iff_compare (a b : Float) :
    a < b ↔ a.toModel.unpack.compare b.toModel.unpack = some .lt := by
  show decide (a.toModel < b.toModel) = true ↔ _
  rw [decide_eq_true_iff]
  exact beq_iff_eq

theorem not_lt_of_lt {a b : Float} (h : a < b) : ¬ b < a := by
  rw [lt_iff_compare] at h ⊢
  rw [← compare_unpacked_swap, h]
  decide

end Verdict.Decimal
