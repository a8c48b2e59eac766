-- Whole numbers in text as floating-point numbers. A text that is read as a whole
-- number is read as the nearest number with at most 53 digits before zeros.
import Verdict.Proofs.Decimal.Whole
import Verdict.Proofs.Decimal.WholeFloats

namespace Verdict.Decimal

open Float.Model Float.Model.UnpackedFloat

/-! ## Digits -/

theorem holdsWhole_zero : HoldsWhole 0 0 := by
  have hzero : (0 : Float).toModel.unpack = .zero .positive := by with_unfolding_all rfl
  unfold HoldsWhole
  rw [hzero]
  exact .zero .positive

theorem holdsWhole_toFloat {n : UInt64} : HoldsWhole n.toFloat (nearest n.toNat) := by
  have hsize : Moderate n.toNat := Nat.lt_trans (UInt64.toNat_lt n) (by decide)
  exact holdsWhole_ofModel_pack (holds_ofNat hsize)

/-- A short number is converted and multiplied by one; a long one is rounded at once. -/
theorem holdsWhole_ofScientific {m : Nat} (hm : Moderate m) :
    HoldsWhole (Float.ofScientific m false 0) (nearest m) := by
  unfold Float.ofScientific
  split
  · rename_i hfast
    have hwhole : nearest m = m := by rw [nearest_natCast, nearestNat_of_lt hfast.1]
    have hnat : m.toUInt64.toNat = m := Nat.mod_eq_of_lt (Nat.lt_trans hfast.1 (by decide))
    have hconverted : HoldsWhole m.toUInt64.toFloat m := by
      have h := holdsWhole_toFloat (n := m.toUInt64)
      rwa [hnat, hwhole] at h
    have hone : HoldsWhole (Float.exactlyRepresentablePowersOfTen[0]) 1 := by
      have hunpack : (Float.exactlyRepresentablePowersOfTen[0]).toModel.unpack =
          .finite .positive (2 ^ 52) (-52) (by decide) := by with_unfolding_all rfl
      unfold HoldsWhole
      rw [hunpack]
      exact .finite (Nat.le_refl _) (by decide) (by decide) rfl
    obtain ⟨z, hz, hproduct⟩ := Computes.times.holdsWhole hconverted hone (by rwa [Int.mul_one])
    cases hz
    rwa [Int.mul_one] at hproduct
  · exact holdsWhole_ofModel_pack (holds_ofScientific hm)

/-! ## Texts -/

theorem holdsWhole_wholeNumeral {negative : Bool} {digits : List Char}
    (h : Moderate (wholeNumeral negative digits).mantissa) :
    HoldsWhole (wholeNumeral negative digits).toFloat (nearest (wholeValue negative digits)) := by
  have hlength : (Text.natDigits (wholeNumeral negative digits).mantissa).length ≤ 40 :=
    (Nat.length_toDigits_le_iff (by decide) (by decide)).mpr (Nat.lt_trans h (by decide))
  have hpower : (wholeNumeral negative digits).power = 0 := rfl
  unfold Numeral.toFloat wholeValue
  simp only [hpower, Int.zero_add]
  generalize (wholeNumeral negative digits).mantissa = m at *
  have hsize : HoldsWhole
      (if m = 0 then 0
      else if 310 < ((Text.natDigits m).length : Int) then Float.ofBits 0x7FF0000000000000
      else if ((Text.natDigits m).length : Int) < -400 then 0
      else Float.ofScientific m (decide ((0 : Int) < 0)) (0 : Int).natAbs) (nearest m) := by
    split
    · rename_i hzero
      rw [hzero]
      exact holdsWhole_zero
    · rw [if_neg (by omega), if_neg (by omega)]
      exact holdsWhole_ofScientific h
  cases negative with
  | false => exact hsize
  | true =>
    show HoldsWhole (-_) (nearest (-_))
    rw [nearest_neg]
    exact holdsWhole_neg hsize

theorem moderate_of_inInt64 {n : Int} (h : Text.inInt64 n = true) : Moderate n := by
  have hbounds := Text.inInt64_iff.mp h
  unfold Text.minInt64 Text.maxInt64 at hbounds
  unfold Moderate
  omega

/-- A whole number in text is read as the nearest number. -/
theorem exists_readFloat?_of_readInt? {text : String} {n : Int} (h : Kind.readInt? text = some n) :
    ∃ x, readFloat? text = some x ∧ HoldsWhole x (nearest n) := by
  obtain ⟨negative, digits, hread, hn⟩ := readNumeral?_of_readInt? h
  have hmoderate := moderate_of_inInt64 (inInt64_of_readInt? h)
  have hholds : HoldsWhole (wholeNumeral negative digits).toFloat (nearest n) := by
    rw [hn]
    refine holdsWhole_wholeNumeral ?_
    unfold wholeValue Moderate at *
    split at hn <;> omega
  refine ⟨(wholeNumeral negative digits).toFloat, ?_, hholds⟩
  unfold readFloat?
  rw [hread]
  simp only [(isFinite_and_floor_of_holds hholds).1, if_true]

end Verdict.Decimal
