-- Finite results. What does not exceed the largest finite number is rounded to
-- a finite number, whether it comes from a whole number, a product or a
-- quotient.
import Mathlib
import Verdict.Decimal.Binary

namespace Verdict.Decimal

open Float.Model Float.Model.UnpackedFloat

/-! ## Mantissas -/

/-- The mantissa and what is left below it do not exceed a whole number. -/
def AtMost (em : ExtendedMantissa) (n : Nat) : Prop :=
  em.mantissa < n ∨ (em.mantissa = n ∧ em.roundBit = false ∧ em.stickyBit = false)

theorem AtMost.shiftRightOne {em : ExtendedMantissa} {n : Nat} (h : AtMost em (n * 2)) :
    AtMost em.shiftRightOne n := by
  unfold AtMost ExtendedMantissa.shiftRightOne
  rcases h with h | ⟨hm, hround, hsticky⟩
  · exact Or.inl (by simp only; omega)
  · refine Or.inr ⟨by simp only; omega, ?_, ?_⟩
    · rw [hm]
      simp
    · rw [hround, hsticky]
      rfl

theorem AtMost.shiftRight {em : ExtendedMantissa} {n : Nat} (k : Nat)
    (h : AtMost em (n * 2 ^ k)) : AtMost (em >>> k) n := by
  induction k generalizing n with
  | zero =>
    rw [Nat.pow_zero, Nat.mul_one] at h
    exact h
  | succ k ih =>
    rw [Nat.pow_succ', ← Nat.mul_assoc] at h
    exact (ih h).shiftRightOne

/-- Rounding goes up to a whole number at most. -/
theorem AtMost.roundedMantissa_le {em : ExtendedMantissa} {n : Nat} (h : AtMost em n) :
    em.roundedMantissa ≤ n := by
  obtain ⟨m, round, sticky⟩ := em
  unfold AtMost at h
  simp only at h
  unfold ExtendedMantissa.roundedMantissa ExtendedMantissa.accuracy
  rcases h with h | ⟨rfl, rfl, rfl⟩
  · cases round <;> cases sticky <;> simp only [Accuracy.roundToNearestEven] <;> omega
  · exact Nat.le_refl _

theorem AtMost.mantissa_le {em : ExtendedMantissa} {n : Nat} (h : AtMost em n) :
    em.mantissa ≤ n := by
  rcases h with h | ⟨h, -⟩
  · exact Nat.le_of_lt h
  · exact Nat.le_of_eq h

theorem mantissa_ofMantissaAndAccuracy (m : Nat) (acc : Accuracy) :
    (ExtendedMantissa.ofMantissaAndAccuracy m acc).mantissa = m := by
  unfold ExtendedMantissa.ofMantissaAndAccuracy
  split <;> rfl

theorem atMost_exact {m n : Nat} (h : m ≤ n) :
    AtMost (ExtendedMantissa.ofMantissaAndAccuracy m .exact) n := by
  rcases Nat.lt_or_eq_of_le h with h | h
  · exact Or.inl h
  · exact Or.inr ⟨h, rfl, rfl⟩

/-- A quotient does not exceed a whole number if the dividend does not exceed its product with
the divisor. -/
theorem atMost_quotient {a b n : Nat} (h : a ≤ n * b) :
    AtMost (ExtendedMantissa.ofMantissaAndAccuracy (a / b) (accuracyOfFraction (a % b) b)) n := by
  have hle : a / b ≤ n := Nat.div_le_of_le_mul (Nat.mul_comm n b ▸ h)
  rcases Nat.lt_or_eq_of_le hle with hlt | heq
  · refine Or.inl ?_
    rw [mantissa_ofMantissaAndAccuracy]
    exact hlt
  · have hdiv := Nat.div_add_mod a b
    rw [heq, Nat.mul_comm b n] at hdiv
    have hrest : a % b = 0 := by omega
    unfold accuracyOfFraction
    rw [if_pos hrest]
    exact atMost_exact hle

/-! ## Rounding -/

/-- The mantissa of the largest finite number at an exponent up to its own. -/
def largestAt (e : Int) : Nat := (2 ^ 53 - 1) * 2 ^ (971 - e).toNat

theorem largestAt_sub {e : Int} (he : e ≤ 971) (k : Nat) :
    largestAt (e - k) = largestAt e * 2 ^ k := by
  have hexponent : (971 - (e - k)).toNat = (971 - e).toNat + k := by omega
  rw [largestAt, largestAt, hexponent, Nat.pow_add, Nat.mul_assoc]

theorem le_largestAt {m k : Nat} (hm : m < 2 ^ 53) (hk : k ≤ 971) :
    m * 2 ^ k ≤ largestAt 0 := by
  have hpower : 2 ^ k ≤ 2 ^ (971 - 0 : Int).toNat := Nat.pow_le_pow_right (by decide) hk
  exact Nat.mul_le_mul (by omega) hpower

theorem two_pow_le_largestAt {k : Nat} (h : k ≤ 971) : 2 ^ k ≤ largestAt 0 := by
  have hone := le_largestAt (m := 1) (by decide) h
  rwa [Nat.one_mul] at hone

/-- The number does not exceed the largest finite one. -/
def Fits (em : ExtendedMantissa) (e : Int) : Prop := e ≤ 971 ∧ AtMost em (largestAt e)

theorem log2_lt_of_le_largestAt {m : Nat} {e : Int} (h : m ≤ largestAt e) :
    m.log2 < 53 + (971 - e).toNat := by
  by_cases hm : m = 0
  · subst hm
    rw [Nat.log2_zero]
    omega
  · rw [Nat.log2_lt hm, Nat.pow_add]
    refine Nat.lt_of_le_of_lt h ?_
    exact Nat.mul_lt_mul_of_pos_right (by decide) (Nat.two_pow_pos _)

/-- The exponent at which a number is rounded does not exceed that of the largest one. -/
theorem Fits.shifted {m : Nat} {e : Int} {acc : Accuracy}
    (h : Fits (.ofMantissaAndAccuracy m acc) e) :
    Fits (shiftToTargetExponent .binary64 m e acc).1
      (shiftToTargetExponent .binary64 m e acc).2 := by
  obtain ⟨he, hm⟩ := h
  have hle := hm.mantissa_le
  rw [mantissa_ofMantissaAndAccuracy] at hle
  have hlog := log2_lt_of_le_largestAt hle
  have htarget : Format.binary64.targetExponent (totalExponent m e) ≤ 971 := by
    unfold Format.targetExponent totalExponent Format.minExponent Format.mantissaBits
    simp only
    omega
  unfold shiftToTargetExponent shiftToExponent
  simp only
  generalize Format.binary64.targetExponent (totalExponent m e) = t at htarget
  refine ⟨by omega, AtMost.shiftRight _ ?_⟩
  have hexponent : (971 - e).toNat = (971 - (e + ((t - e).toNat : Int))).toNat + (t - e).toNat := by
    omega
  unfold largestAt at hm ⊢
  rw [Nat.mul_assoc, ← Nat.pow_add, ← hexponent]
  exact hm

/-- A whole number written with binary places behind the point. -/
theorem fits_shifted {m : Nat} (h : m ≤ largestAt 0) (k : Nat) :
    Fits (.ofMantissaAndAccuracy (m * 2 ^ k) .exact) (0 - k) := by
  refine ⟨by omega, atMost_exact ?_⟩
  rw [largestAt_sub (by decide)]
  exact Nat.mul_le_mul_right _ h

/-- A zero, or a number with an exponent that is not too large. -/
def NotLarge : UnpackedFloat → Prop
  | .zero _ => True
  | .finite _ _ e _ => e ≤ 971
  | _ => False

theorem notLarge_roundWithAccuracy {m : Nat} {e : Int} {acc : Accuracy} (s : Sign)
    (h : Fits (.ofMantissaAndAccuracy m acc) e) :
    NotLarge (roundWithAccuracy .binary64 s m e acc) := by
  have hfirst := h.shifted
  have hrounded : Fits (.ofMantissaAndAccuracy
      (shiftToTargetExponent .binary64 m e acc).1.roundedMantissa .exact)
      (shiftToTargetExponent .binary64 m e acc).2 :=
    ⟨hfirst.1, atMost_exact hfirst.2.roundedMantissa_le⟩
  have hsecond := hrounded.shifted
  unfold roundWithAccuracy
  simp only
  split
  · trivial
  · exact hsecond.1

/-! ## Bits -/

theorem exponentBits_eq (x : Float) :
    exponentBits x = (@unpackExponent .binary64 x.toModel.toBits.toBitVec).toNat := by
  unfold exponentBits unpackExponent twoTo
  rw [BitVec.toNat_cast, BitVec.extractLsb_toNat, Nat.shiftRight_eq_div_pow]
  rfl

theorem exponentBias_eq : Format.binary64.exponentBias = 1023 := rfl

theorem isFinite_iff (x : Float) : isFinite x = true ↔
    (@unpackExponent .binary64 x.toModel.toBits.toBitVec).toNat ≠ 2047 := by
  unfold isFinite
  rw [exponentBits_eq, bne_iff_ne]

theorem isFinite_ofModel_pack {u : UnpackedFloat} (h : NotLarge u) :
    isFinite (Float.ofModel (Float.Model.pack u)) = true := by
  refine (isFinite_iff _).mpr ?_
  have hbits : (Float.ofModel (Float.Model.pack u)).toModel.toBits.toBitVec =
      UnpackedFloat.pack .binary64 u := rfl
  rw [hbits]
  cases u with
  | infinity s => cases h
  | notANumber => cases h
  | zero s =>
    unfold UnpackedFloat.pack packedZero
    rw [unpackExponent_packComponents]
    decide
  | finite s m e hm =>
    have he : e ≤ 971 := h
    unfold UnpackedFloat.pack
    simp only
    split
    · rename_i hlarge
      rw [exponentBias_eq] at hlarge
      omega
    · rename_i hsmall
      split
      · rw [unpackExponent_packComponents, BitVec.toNat_ofNat]
        rw [exponentBias_eq] at hsmall ⊢
        omega
      · rw [unpackExponent_packComponents]
        decide

/-- A zero, or a number with at most 53 bits and an exponent that is not too large. -/
def Representable : UnpackedFloat → Prop
  | .zero _ => True
  | .finite _ m e _ => m < 2 ^ 53 ∧ e ≤ 971
  | _ => False

theorem representable_unpack {x : Float} (h : isFinite x = true) :
    Representable x.toModel.unpack := by
  have hexponent := (isFinite_iff x).mp h
  have hfraction : (@unpackMantissa .binary64 x.toModel.toBits.toBitVec).toNat < 2 ^ 52 :=
    BitVec.isLt _
  unfold Float.Model.unpack UnpackedFloat.unpack
  simp only
  rw [exponentBias_eq]
  generalize @unpackExponent .binary64 x.toModel.toBits.toBitVec = exponent at *
  have hsize : exponent.toNat < 2048 := exponent.isLt
  split
  · rename_i hones
    rw [hones] at hexponent
    exact absurd rfl hexponent
  · split
    · split
      · trivial
      · rename_i hzero _
        rw [hzero]
        exact ⟨Nat.lt_trans hfraction (by decide), by decide⟩
    · refine ⟨BitVec.isLt _, ?_⟩
      show (exponent.toNat : Int) - (1023 + 52) ≤ 971
      omega

/-! ## Operations -/

/-- A number that is not below one. -/
def AtLeastOne : UnpackedFloat → Prop
  | .finite _ m e _ => 2 ^ (-e).toNat ≤ m
  | _ => False

instance (u : UnpackedFloat) : Decidable (AtLeastOne u) := by
  cases u <;> unfold AtLeastOne <;> infer_instance

/-- A quotient is rounded to a finite number if the dividend does not exceed the product of the
largest number with the divisor. -/
theorem fits_divCore {m n : Nat} {e f : Int}
    (htarget : min (e - f) (Format.binary64.targetExponent (totalExponent m e - totalExponent n f))
      ≤ 971)
    (h : ∀ t k, t + (k : Nat) = e - f → t ≤ 971 → m * 2 ^ k ≤ largestAt t * n) :
    Fits (.ofMantissaAndAccuracy (divCore .binary64 m e n f).1 (divCore .binary64 m e n f).2.2)
      (divCore .binary64 m e n f).2.1 := by
  unfold divCore
  simp only
  refine ⟨htarget, atMost_quotient ?_⟩
  rw [Nat.shiftLeft_eq]
  exact h _ _ (by omega) htarget

theorem notLarge_div {u v : UnpackedFloat} (hu : Representable u) (hv : AtLeastOne v) :
    NotLarge (UnpackedFloat.div .binary64 u v) := by
  cases u with
  | infinity s => cases hu
  | notANumber => cases hu
  | zero s =>
    cases v with
    | finite t n f hn => trivial
    | _ => cases hv
  | finite s m e hm =>
    cases v with
    | finite t n f hn =>
      obtain ⟨hmantissa, hexponent⟩ := hu
      have hone : 2 ^ (-f).toNat ≤ n := hv
      have hlogm : m.log2 < 53 := (Nat.log2_lt (by omega)).mpr hmantissa
      have hlogn : (-f).toNat ≤ n.log2 := (Nat.le_log2 (by omega)).mpr hone
      have htarget : min (e - f) (Format.binary64.targetExponent
          (totalExponent m e - totalExponent n f)) ≤ 971 := by
        unfold Format.targetExponent totalExponent Format.minExponent Format.mantissaBits
        simp only
        omega
      refine notLarge_roundWithAccuracy _ (fits_divCore htarget fun r k hk hr => ?_)
      have hpower : 2 ^ k ≤ 2 ^ (971 - r).toNat * n :=
        calc 2 ^ k ≤ 2 ^ ((971 - r).toNat + (-f).toNat) :=
              Nat.pow_le_pow_right (by decide) (by omega)
          _ = 2 ^ (971 - r).toNat * 2 ^ (-f).toNat := Nat.pow_add ..
          _ ≤ 2 ^ (971 - r).toNat * n := Nat.mul_le_mul_left _ hone
      unfold largestAt
      rw [Nat.mul_assoc]
      exact Nat.mul_le_mul (by omega) hpower
    | _ => cases hv

theorem notLarge_mul_one {u : UnpackedFloat} (hu : Representable u) :
    NotLarge (UnpackedFloat.mul .binary64 u (.finite .positive (2 ^ 52) (-52) (by decide))) := by
  cases u with
  | infinity s => cases hu
  | notANumber => cases hu
  | zero s => trivial
  | finite s m e hm =>
    obtain ⟨hmantissa, hexponent⟩ := hu
    refine notLarge_roundWithAccuracy _ ⟨by omega, atMost_exact ?_⟩
    unfold largestAt
    refine Nat.mul_le_mul (by omega) (Nat.pow_le_pow_right (by decide) (by omega))

theorem notLarge_neg {u : UnpackedFloat} (hu : Representable u) : NotLarge u.neg := by
  cases u with
  | infinity s => cases hu
  | notANumber => cases hu
  | zero s => trivial
  | finite s m e hm => exact hu.2

theorem isFinite_neg {x : Float} (h : isFinite x = true) : isFinite (-x) = true :=
  isFinite_ofModel_pack (notLarge_neg (representable_unpack h))

theorem notLarge_ofNat {n : Nat} (h : n < 2 ^ 64) : NotLarge (UnpackedFloat.ofNat .binary64 n) := by
  unfold UnpackedFloat.ofNat UnpackedFloat.ofInt UnpackedFloat.normalize
  split
  · rename_i hneg
    rw [Int.compare_eq_lt] at hneg
    omega
  · trivial
  · unfold UnpackedFloat.round decreaseExponent
    simp only [Int.toNat_natCast]
    generalize (0 - Format.binary64.targetExponent (totalExponent n 0)).toNat = k
    rw [Nat.shiftLeft_eq]
    have hle : n ≤ largestAt 0 := Nat.le_trans (Nat.le_of_lt h) (two_pow_le_largestAt (by decide))
    exact notLarge_roundWithAccuracy _ (fits_shifted hle k)

/-! ## Decimal digits -/

theorem notLarge_mul_whole {m n : Nat} (h : m ≤ largestAt 0) (k : Nat) (hm : 0 < m <<< k)
    (hone : n = 1) (hn : 0 < n) :
    NotLarge (UnpackedFloat.mul .binary64 (.finite .positive (m <<< k) (-(k : Int)) hm)
      (.finite .positive n 0 hn)) := by
  have hexponent : -(k : Int) + 0 = 0 - k := by omega
  unfold UnpackedFloat.mul
  simp only
  rw [hexponent, hone, Nat.mul_one, Nat.shiftLeft_eq]
  exact notLarge_roundWithAccuracy _ (fits_shifted h k)

theorem notLarge_ofScientific {m places : Nat} {e : Int} (he : e = -(places : Int))
    (h : m ≤ largestAt 0 * 10 ^ places) :
    NotLarge (UnpackedFloat.ofScientific .binary64 m e) := by
  have hlimit : (0 : Int) ≤ 2 ^ Format.binary64.exponentBits := by decide
  unfold UnpackedFloat.ofScientific
  split
  · trivial
  split
  · omega
  split
  · trivial
  split
  · -- Nothing stands behind the point, and the number is made as a product with one.
    have hplaces : places = 0 := by omega
    have hpower : 10 ^ e.toNat = 1 := by
      rw [he, hplaces]
      rfl
    have hwhole : m ≤ largestAt 0 := by simpa only [hplaces, Nat.pow_zero, Nat.mul_one] using h
    exact notLarge_mul_whole hwhole _ _ hpower _
  · unfold UnpackedFloat.div
    simp only
    have hpower : (-e).toNat = places := by omega
    rw [hpower]
    refine notLarge_roundWithAccuracy _ (fits_divCore (by omega) fun t k hk _ => ?_)
    have ht : t = 0 - (k : Int) := by omega
    rw [ht, largestAt_sub (by decide), Nat.mul_right_comm]
    exact Nat.mul_le_mul_right _ h

/-- A decimal number that does not exceed the largest finite number is read as a finite one. -/
theorem isFinite_ofScientific {m places : Nat} (h : m ≤ largestAt 0 * 10 ^ places) (down : Bool)
    (hdown : down = false → places = 0) : isFinite (Float.ofScientific m down places) = true := by
  unfold Float.ofScientific
  split
  · rename_i hfast
    obtain ⟨hm, hplaces⟩ := hfast
    have hdividend : isFinite m.toUInt64.toFloat = true :=
      isFinite_ofModel_pack (notLarge_ofNat (UInt64.toNat_lt _))
    have hpowers : ∀ k : Fin 23,
        AtLeastOne (Float.exactlyRepresentablePowersOfTen[k]).toModel.unpack := by decide +kernel
    cases down with
    | true =>
      exact isFinite_ofModel_pack
        (notLarge_div (representable_unpack hdividend) (hpowers ⟨places, by omega⟩))
    | false =>
      have hzero := hdown rfl
      subst hzero
      have hone : (Float.exactlyRepresentablePowersOfTen[0]).toModel.unpack =
          .finite .positive (2 ^ 52) (-52) (by decide) := by
        with_unfolding_all rfl
      have hproduct := notLarge_mul_one (representable_unpack hdividend)
      rw [← hone] at hproduct
      exact isFinite_ofModel_pack hproduct
  · have hexponent : (if down = true then Int.negOfNat places else Int.ofNat places) =
        -(places : Int) := by
      cases down with
      | true => exact Int.negOfNat_eq
      | false =>
        rw [hdown rfl]
        rfl
    exact isFinite_ofModel_pack (notLarge_ofScientific hexponent h)

end Verdict.Decimal
