-- Whole numbers in floating-point numbers. They come back out of the bits as they
-- were put in, and their floor is the whole number itself.
import Verdict.Operator.Arithmetic
import Verdict.Proofs.Decimal.WholeResults

namespace Verdict.Decimal

open Float.Model Float.Model.UnpackedFloat

variable {u : UnpackedFloat} {x y : Float} {a b n : Int}

/-! ## Bits -/

theorem unpackSign_packComponents (spec : Format) (s : Sign) (exponent : BitVec spec.exponentBits)
    (mantissa : BitVec spec.mantissaBitsWithoutImplicit) :
    unpackSign (packComponents spec s exponent mantissa) = s.toBitVec := by
  ext i hi
  have hzero : i = 0 := by omega
  subst hzero
  simp [unpackSign, packComponents, BitVec.getLsbD_append, BitVec.getElem_append]

theorem ofBitVec_toBitVec (s : Sign) : Sign.ofBitVec s.toBitVec = s := by
  cases s <;> rfl

theorem toNat_implicit (mantissa : BitVec 52) :
    (1#1 ++ mantissa).toNat = 2 ^ 52 + mantissa.toNat := by
  rw [BitVec.toNat_append, ← Nat.shiftLeft_add_eq_or_of_lt mantissa.isLt]
  rfl

/-- The bits of an exponent that is neither the least nor the greatest, and 52 bits of 53. -/
theorem unpack_packComponents {m b : Nat} (s : Sign) (hm : 0 < m) (low : 2 ^ 52 ≤ m)
    (high : m < 2 ^ 53) (hb : 1 ≤ b ∧ b ≤ 2046) :
    UnpackedFloat.unpack .binary64
        (packComponents .binary64 s (BitVec.ofNat 11 b) (BitVec.ofNat 52 m)) =
      .finite s m (b - 1075) hm := by
  have hexponent : (BitVec.ofNat 11 b).toNat = b := by
    rw [BitVec.toNat_ofNat, Nat.mod_eq_of_lt (by omega)]
  have hne (c : BitVec 11) (hc : c.toNat ≠ b) : BitVec.ofNat 11 b ≠ c :=
    fun h => hc (h ▸ hexponent)
  have hmantissa : (1#1 ++ BitVec.ofNat 52 m).toNat = m := by
    rw [toNat_implicit, BitVec.toNat_ofNat]
    omega
  have hones : (-1#11 : BitVec 11).toNat = 2047 := rfl
  have hzeros : (0#11 : BitVec 11).toNat = 0 := rfl
  unfold UnpackedFloat.unpack
  simp only [unpackExponent_packComponents, unpackMantissa_packComponents,
    unpackSign_packComponents, ofBitVec_toBitVec, hmantissa, hexponent]
  rw [if_neg (hne _ (by omega)), if_neg (hne _ (by omega))]
  rfl

theorem unpack_pack_finite {s : Sign} {m : Nat} {e : Int} (hm : 0 < m) (low : 2 ^ 52 ≤ m)
    (high : m < 2 ^ 53) (he : -1074 ≤ e ∧ e ≤ 971) :
    UnpackedFloat.unpack .binary64 (UnpackedFloat.pack .binary64 (.finite s m e hm)) =
      .finite s m e hm := by
  obtain ⟨b, hb⟩ : ∃ b : Nat, e = b - 1075 := ⟨(e + 1075).toNat, by omega⟩
  have hlog : m.log2 = 52 := (Nat.log2_eq_iff (by omega)).mpr ⟨low, high⟩
  have hbits : (e + Format.binary64.exponentBias +
      Format.binary64.mantissaBitsWithoutImplicit).toNat = b := by
    rw [exponentBias_eq]
    simp only
    omega
  subst hb
  have hpack : UnpackedFloat.pack .binary64 (.finite s m (b - 1075) hm) =
      packComponents .binary64 s (BitVec.ofNat 11 b) (BitVec.ofNat 52 m) := by
    unfold UnpackedFloat.pack
    simp only [hbits, hlog]
    rw [if_neg (by omega), if_pos (show 52 + 1 = Format.binary64.mantissaBits from rfl)]
  rw [hpack]
  exact unpack_packComponents s hm low high (by omega)

/-- A number that holds a whole number is what its bits stand for. -/
theorem Holds.unpack_pack (h : Holds u n) :
    UnpackedFloat.unpack .binary64 (UnpackedFloat.pack .binary64 u) = u := by
  cases h with
  | zero s => cases s <;> rfl
  | @finite s m e n hm low high small value =>
    have hdigits := value.natAbs.log2_nonneg (by omega)
    have hlog : m.log2 < 53 := (Nat.log2_lt (by omega)).mpr high
    exact unpack_pack_finite hm low high (by omega)

/-! ## Operators -/

/-- The number is a whole number with at most 53 digits before zeros. -/
def HoldsWhole (x : Float) (n : Int) : Prop := Holds x.toModel.unpack n

theorem holdsWhole_ofModel_pack (h : Holds u n) :
    HoldsWhole (Float.ofModel (Float.Model.pack u)) n := by
  show Holds (UnpackedFloat.unpack .binary64 (UnpackedFloat.pack .binary64 u)) n
  rwa [h.unpack_pack]

theorem holdsWhole_neg (hx : HoldsWhole x a) : HoldsWhole (-x) (-a) :=
  holdsWhole_ofModel_pack (holds_neg hx)

/-- An operator on numbers that does on whole numbers what it is named for. -/
inductive Computes : ArithmeticOp → (Int → Int → Int) → Prop
  | plus : Computes .plus (· + ·)
  | minus : Computes .minus (· - ·)
  | times : Computes .times (· * ·)

/-- The exact result is rounded once. -/
theorem Computes.holdsWhole {op : ArithmeticOp} {f : Int → Int → Int} (hop : Computes op f)
    (hx : HoldsWhole x a) (hy : HoldsWhole y b) (hn : Moderate (f a b)) :
    ∃ z, op.result? x y = some z ∧ HoldsWhole z (nearest (f a b)) := by
  cases hop with
  | plus => exact ⟨x + y, rfl, holdsWhole_ofModel_pack (holds_add hx hy hn)⟩
  | minus => exact ⟨x - y, rfl, holdsWhole_ofModel_pack (holds_sub hx hy hn)⟩
  | times => exact ⟨x * y, rfl, holdsWhole_ofModel_pack (holds_mul hx hy hn)⟩

/-! ## The floor -/

theorem isNegative_iff (x : Float) : isNegative x = true ↔
    Sign.ofBitVec (@unpackSign .binary64 x.toModel.toBits.toBitVec) = .negative := by
  have hsign : (@unpackSign .binary64 x.toModel.toBits.toBitVec).toNat =
      x.toBits.toNat / 2 ^ 63 % 2 := by
    unfold unpackSign
    rw [BitVec.toNat_cast, BitVec.extractLsb_toNat, Nat.shiftRight_eq_div_pow]
    rfl
  have hbits : x.toBits.toNat < 2 ^ 64 := UInt64.toNat_lt _
  have hzero : Sign.ofBitVec (@unpackSign .binary64 x.toModel.toBits.toBitVec) = .negative ↔
      @unpackSign .binary64 x.toModel.toBits.toBitVec ≠ 0#1 := by
    unfold Sign.ofBitVec
    split <;> simp_all
  rw [hzero, isNegative, decide_eq_true_iff, ← BitVec.toNat_inj.ne, hsign, BitVec.toNat_zero]
  unfold twoTo
  simp only [Nat.pow_eq]
  omega

/-- The value of a finite number is read off its bits. -/
theorem binary_of_unpack_finite {s : Sign} {m : Nat} {e : Int} {hm : 0 < m}
    (h : x.toModel.unpack = .finite s m e hm) :
    isFinite x = true ∧ (Binary.ofFloat x).mantissa = m ∧ (Binary.ofFloat x).exponent = e ∧
      (isNegative x = true ↔ s = .negative) := by
  rw [isFinite_iff, isNegative_iff]
  unfold Binary.ofFloat
  rw [exponentBits_eq, fractionBits_eq]
  unfold Float.Model.unpack UnpackedFloat.unpack at h
  simp only [exponentBias_eq] at h
  have hones : (-1#11 : BitVec 11).toNat = 2047 := rfl
  generalize @unpackExponent .binary64 x.toModel.toBits.toBitVec = exponent at *
  split at h
  · split at h <;> cases h
  rename_i hlarge
  have hfinite : exponent.toNat ≠ 2047 := fun heq => hlarge (BitVec.eq_of_toNat_eq heq)
  split at h
  · rename_i hsmall
    split at h
    · cases h
    · cases h
      rw [hsmall]
      exact ⟨by decide, rfl, rfl, Iff.rfl⟩
  · rename_i hsmall
    have hnormal : exponent.toNat ≠ 0 := fun heq => hsmall (BitVec.eq_of_toNat_eq heq)
    cases h
    rw [if_neg hnormal, toNat_implicit]
    exact ⟨hfinite, rfl, rfl, Iff.rfl⟩

theorem binary_of_unpack_zero {s : Sign} (h : x.toModel.unpack = .zero s) :
    isFinite x = true ∧ (Binary.ofFloat x).mantissa = 0 := by
  rw [isFinite_iff]
  unfold Binary.ofFloat
  rw [exponentBits_eq, fractionBits_eq]
  unfold Float.Model.unpack UnpackedFloat.unpack at h
  simp only at h
  split at h
  · split at h <;> cases h
  split at h
  · rename_i hexponent
    split at h
    · rename_i hfraction
      rw [hexponent, hfraction]
      decide
    · cases h
  · cases h

/-- A number without a fraction is its own floor. -/
theorem floor_of_num {k : Nat} (h : (Binary.ofFloat x).num = k * (Binary.ofFloat x).den) :
    floor x = if isNegative x = true then -(k : Int) else k := by
  have hden := (Binary.ofFloat x).den_pos
  unfold floor
  simp only [h]
  generalize (Binary.ofFloat x).den = d at *
  have hup : (k * d + d - 1) / d = k := by
    rw [Nat.add_sub_assoc hden, Nat.mul_comm, Nat.mul_add_div hden, Nat.div_eq_of_lt (by omega),
      Nat.add_zero]
  rw [hup, Nat.mul_div_cancel _ hden]

theorem Scaled.eq_apply {s : Sign} {m : Nat} {e n : Int} (h : Scaled (s.apply m) e n) :
    n = s.apply n.natAbs := by
  have habs := h.natAbs
  cases s with
  | positive => exact h.unique habs
  | negative => exact h.unique habs.neg

theorem isFinite_and_floor_of_holds (h : HoldsWhole x n) : isFinite x = true ∧ floor x = n := by
  unfold HoldsWhole at h
  generalize hu : x.toModel.unpack = u at h
  cases h with
  | zero s =>
    obtain ⟨hfinite, hmantissa⟩ := binary_of_unpack_zero hu
    refine ⟨hfinite, ?_⟩
    have hnum : (Binary.ofFloat x).num = 0 * (Binary.ofFloat x).den := by
      rw [Binary.num, hmantissa, Nat.zero_mul, Nat.zero_mul]
    rw [floor_of_num hnum]
    split <;> rfl
  | @finite s m e n hm low high small value =>
    obtain ⟨hfinite, hmantissa, hexponent, hsign⟩ := binary_of_unpack_finite hu
    refine ⟨hfinite, ?_⟩
    have hnum : (Binary.ofFloat x).num = n.natAbs * (Binary.ofFloat x).den := by
      have habs := value.natAbs
      unfold Scaled at habs
      rw [Binary.num, Binary.den, hmantissa, hexponent]
      unfold twoTo
      exact_mod_cast habs
    rw [floor_of_num hnum]
    refine Eq.trans ?_ value.eq_apply.symm
    cases s with
    | positive => exact if_neg fun hneg => nomatch hsign.mp hneg
    | negative => exact if_pos (hsign.mpr rfl)

/-- A whole number in the range of 64 bits; for another one, the nearer end of the range. -/
def held (n : Int) : Int := max Text.minInt64 (min Text.maxInt64 n)

theorem held_of_inInt64 (h : Text.inInt64 n = true) : held n = n := by
  have hbounds := Text.inInt64_iff.mp h
  unfold held
  omega

theorem floorInt64_of_holds (h : HoldsWhole x n) : floorInt64 x = held n := by
  obtain ⟨hfinite, hfloor⟩ := isFinite_and_floor_of_holds h
  unfold floorInt64
  rw [hfinite, if_pos rfl, hfloor]
  rfl

end Verdict.Decimal
