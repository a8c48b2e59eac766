-- Operations on finite numbers do not fail. A result may be too large, and then
-- it is an infinity.
import Verdict.Operator.Arithmetic
import Verdict.Proofs.Decimal.Rounding

namespace Verdict.Decimal

open Float.Model Float.Model.UnpackedFloat

/-- A zero or a finite number of any size. -/
def IsNumber : UnpackedFloat → Prop
  | .zero _ => True
  | .finite .. => True
  | _ => False

theorem Representable.isNumber {u : UnpackedFloat} (h : Representable u) : IsNumber u := by
  cases u with
  | zero s => trivial
  | finite s m e hm => trivial
  | infinity s => cases h
  | notANumber => cases h

/-! ## Results -/

theorem isNumber_roundWithAccuracy (spec : Format) (s : Sign) (m : Nat) (e : Int)
    (acc : Accuracy) : IsNumber (roundWithAccuracy spec s m e acc) := by
  unfold roundWithAccuracy
  simp only
  split <;> trivial

theorem isNumber_normalize (spec : Format) (m e : Int) (zero : Sign) :
    IsNumber (UnpackedFloat.normalize spec m e zero) := by
  unfold UnpackedFloat.normalize
  split
  · exact isNumber_roundWithAccuracy ..
  · trivial
  · exact isNumber_roundWithAccuracy ..

theorem IsNumber.cases {u : UnpackedFloat} (h : IsNumber u) :
    (∃ s, u = .zero s) ∨ ∃ s m e hm, u = .finite s m e hm := by
  cases u with
  | zero s => exact Or.inl ⟨s, rfl⟩
  | finite s m e hm => exact Or.inr ⟨s, m, e, hm, rfl⟩
  | infinity s => cases h
  | notANumber => cases h

variable {u v : UnpackedFloat} (spec : Format)

theorem isNumber_add (hu : IsNumber u) (hv : IsNumber v) : IsNumber (u.add spec v) := by
  rcases hu.cases with ⟨s, rfl⟩ | ⟨s, m, e, hm, rfl⟩ <;>
    rcases hv.cases with ⟨t, rfl⟩ | ⟨t, n, f, hn, rfl⟩
  · cases s <;> cases t <;> trivial
  · trivial
  · trivial
  · exact isNumber_normalize ..

theorem isNumber_sub (hu : IsNumber u) (hv : IsNumber v) : IsNumber (u.sub spec v) := by
  rcases hu.cases with ⟨s, rfl⟩ | ⟨s, m, e, hm, rfl⟩ <;>
    rcases hv.cases with ⟨t, rfl⟩ | ⟨t, n, f, hn, rfl⟩
  · cases s <;> cases t <;> trivial
  · trivial
  · trivial
  · exact isNumber_normalize ..

theorem isNumber_mul (hu : IsNumber u) (hv : IsNumber v) : IsNumber (u.mul spec v) := by
  rcases hu.cases with ⟨s, rfl⟩ | ⟨s, m, e, hm, rfl⟩ <;>
    rcases hv.cases with ⟨t, rfl⟩ | ⟨t, n, f, hn, rfl⟩
  · trivial
  · trivial
  · trivial
  · exact isNumber_roundWithAccuracy ..

theorem isNumber_div (hu : IsNumber u) (hv : IsNumber v) (hzero : ∀ s, v ≠ .zero s) :
    IsNumber (u.div spec v) := by
  rcases hv.cases with ⟨t, rfl⟩ | ⟨t, n, f, hn, rfl⟩
  · exact absurd rfl (hzero t)
  · rcases hu.cases with ⟨s, rfl⟩ | ⟨s, m, e, hm, rfl⟩
    · trivial
    · exact isNumber_roundWithAccuracy ..

/-! ## Infinities -/

theorem fractionBits_eq (x : Float) :
    fractionBits x = (@unpackMantissa .binary64 x.toModel.toBits.toBitVec).toNat := by
  unfold fractionBits unpackMantissa twoTo
  rw [BitVec.toNat_cast, BitVec.extractLsb_toNat]
  rfl

/-- A number that is too large for its bits becomes an infinity. -/
theorem isInfinite_ofModel_pack (h : IsNumber u)
    (hlarge : isFinite (Float.ofModel (Float.Model.pack u)) = false) :
    isInfinite (Float.ofModel (Float.Model.pack u)) = true := by
  have hnot : ¬ NotLarge u := by
    intro hu
    rw [isFinite_ofModel_pack hu] at hlarge
    cases hlarge
  rcases h.cases with ⟨s, rfl⟩ | ⟨s, m, e, hm, rfl⟩
  · exact absurd trivial hnot
  · have he : ¬ e ≤ 971 := hnot
    have hbits : (Float.ofModel (Float.Model.pack (.finite s m e hm))).toModel.toBits.toBitVec =
        packedInfinity .binary64 s := by
      show UnpackedFloat.pack .binary64 (.finite s m e hm) = _
      unfold UnpackedFloat.pack
      simp only
      rw [if_pos]
      rw [exponentBias_eq]
      omega
    unfold isInfinite
    rw [exponentBits_eq, fractionBits_eq, hbits]
    unfold packedInfinity
    rw [unpackExponent_packComponents, unpackMantissa_packComponents]
    rfl

/-! ## The operators -/

/-- The result of an operation on finite numbers is finite or an infinity. -/
theorem isInfinite_of_result? {op : ArithmeticOp} {a b x : Float} (ha : isFinite a = true)
    (hb : isFinite b = true) (hx : op.result? a b = some x) (hlarge : isFinite x = false) :
    isInfinite x = true := by
  have hu := (representable_unpack ha).isNumber
  have hv := (representable_unpack hb).isNumber
  cases op with
  | first =>
    cases hx
    rw [ha] at hlarge
    cases hlarge
  | plus =>
    cases hx
    exact isInfinite_ofModel_pack (isNumber_add .binary64 hu hv) hlarge
  | minus =>
    cases hx
    exact isInfinite_ofModel_pack (isNumber_sub .binary64 hu hv) hlarge
  | times =>
    cases hx
    exact isInfinite_ofModel_pack (isNumber_mul .binary64 hu hv) hlarge
  | dividedBy =>
    unfold ArithmeticOp.result? at hx
    simp only at hx
    split at hx
    · cases hx
    · rename_i hzero
      cases hx
      refine isInfinite_ofModel_pack (isNumber_div .binary64 hu hv fun s hs => hzero ?_) hlarge
      have hunit : (0 : Float).toModel.unpack = .zero .positive := by with_unfolding_all rfl
      show (b.toModel.unpack.beq (0 : Float).toModel.unpack) = true
      rw [hs, hunit]
      rfl

end Verdict.Decimal
