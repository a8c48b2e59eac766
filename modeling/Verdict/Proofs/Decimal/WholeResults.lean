-- Operations on floating-point numbers that hold whole numbers. The exact result
-- is rounded to the nearest number that can be held.
import Verdict.Decimal.Reading
import Verdict.Proofs.Decimal.Nearest
import Verdict.Proofs.Decimal.Operations

namespace Verdict.Decimal

open Float.Model Float.Model.UnpackedFloat

/-! ## Digits that are shifted out -/

/-- The mantissa is a whole quotient, and its two bits tell how the rest compares to one half. -/
structure Shows (em : ExtendedMantissa) (num den : Nat) : Prop where
  whole : em.mantissa = num / den
  half : em.roundBit = true ↔ den ≤ 2 * (num % den)
  rest : em.stickyBit = true ↔ num % den ≠ 0 ∧ 2 * (num % den) ≠ den

theorem shows_exact (m : Nat) : Shows (.ofMantissaAndAccuracy m .exact) m 1 where
  whole := (Nat.div_one m).symm
  half := by simp [ExtendedMantissa.ofMantissaAndAccuracy, Nat.mod_one]
  rest := by simp [ExtendedMantissa.ofMantissaAndAccuracy, Nat.mod_one]

theorem Shows.shiftRightOne {em : ExtendedMantissa} {num den : Nat} (hden : 0 < den)
    (h : Shows em num den) : Shows em.shiftRightOne num (den * 2) := by
  obtain ⟨m, round, sticky⟩ := em
  obtain ⟨hwhole, hhalf, hrest⟩ := h
  simp only at hwhole hhalf hrest
  -- The rest is the last digit of the quotient and the rest from before.
  have hmod : num % (den * 2) = num % den + den * (m % 2) := by rw [hwhole, Nat.mod_mul]
  have hlt : num % den < den := Nat.mod_lt _ hden
  generalize num % den = r at *
  constructor
  · show m / 2 = _
    rw [hwhole, Nat.div_div_eq_div_mul]
  · show (m % 2 != 0) = true ↔ _
    rw [bne_iff_ne, hmod]
    rcases Nat.mod_two_eq_zero_or_one m with hbit | hbit <;> rw [hbit] <;> omega
  · show (round || sticky) = true ↔ _
    rw [Bool.or_eq_true, hhalf, hrest, hmod]
    rcases Nat.mod_two_eq_zero_or_one m with hbit | hbit <;> rw [hbit] <;> omega

theorem Shows.shiftRight {em : ExtendedMantissa} {num den : Nat} (hden : 0 < den)
    (h : Shows em num den) (k : Nat) : Shows (em >>> k) num (den * 2 ^ k) := by
  induction k with
  | zero =>
    rw [Nat.pow_zero, Nat.mul_one]
    exact h
  | succ k ih =>
    rw [Nat.pow_succ, ← Nat.mul_assoc]
    exact ih.shiftRightOne (Nat.mul_pos hden (Nat.two_pow_pos k))

theorem Shows.roundedMantissa {em : ExtendedMantissa} {num den : Nat} (h : Shows em num den) :
    em.roundedMantissa = roundDiv num den := by
  obtain ⟨m, round, sticky⟩ := em
  obtain ⟨hwhole, hhalf, hrest⟩ := h
  simp only at hwhole hhalf hrest
  unfold roundDiv ExtendedMantissa.roundedMantissa ExtendedMantissa.accuracy
  simp only [← hwhole]
  generalize num % den = r at *
  cases round <;> cases sticky
  · have hlt : 2 * r < den := by simpa using hhalf
    rw [if_pos hlt, Accuracy.roundToNearestEven]
  · have hlt : 2 * r < den := by simpa using hhalf
    rw [if_pos hlt, Accuracy.roundToNearestEven]
  · have heq : 2 * r = den := by simp at hhalf hrest; omega
    rw [if_neg (by omega), if_neg (by omega), Accuracy.roundToNearestEven]
  · have hgt : den < 2 * r := by simp at hhalf hrest; omega
    rw [if_neg (by omega), if_pos hgt, Accuracy.roundToNearestEven]

/-! ## Whole numbers as mantissas -/

/-- `m * 2 ^ e` is the whole number `n`. -/
def Scaled (m e n : Int) : Prop := m * 2 ^ e.toNat = n * 2 ^ (-e).toNat

/-- The exponent may be written as any difference. -/
theorem scaled_iff {m e n : Int} (p q : Nat) (h : e = p - q) :
    Scaled m e n ↔ m * 2 ^ p = n * 2 ^ q := by
  obtain ⟨t, hp, hq⟩ : ∃ t, p = e.toNat + t ∧ q = (-e).toNat + t := ⟨min p q, by omega, by omega⟩
  have hpower : (2 : Int) ^ t ≠ 0 := Int.pow_ne_zero (by decide)
  unfold Scaled
  rw [hp, hq, Int.pow_add, Int.pow_add, ← Int.mul_assoc, ← Int.mul_assoc,
    Int.mul_eq_mul_right_iff hpower]

namespace Scaled

variable {m m' e f n n' : Int}

theorem shift_iff (k : Nat) : Scaled (m * 2 ^ k) e n ↔ Scaled m (e + k) n := by
  have hup : e + k = ((e.toNat + k : Nat) : Int) - (-e).toNat := by omega
  rw [scaled_iff _ _ hup, scaled_iff e.toNat (-e).toNat (by omega), Int.pow_add, Int.mul_assoc,
    Int.mul_comm (2 ^ k)]

theorem unique (h : Scaled m e n) (h' : Scaled m e n') : n = n' := by
  have hpower : (2 : Int) ^ (-e).toNat ≠ 0 := Int.pow_ne_zero (by decide)
  exact Int.eq_of_mul_eq_mul_right hpower (h.symm.trans h')

theorem add (h : Scaled m e n) (h' : Scaled m' e n') : Scaled (m + m') e (n + n') := by
  unfold Scaled at *
  rw [Int.add_mul, Int.add_mul, h, h']

theorem neg (h : Scaled m e n) : Scaled (-m) e (-n) := by
  unfold Scaled at *
  rw [Int.neg_mul, Int.neg_mul, h]

theorem mul (h : Scaled m e n) (h' : Scaled m' f n') : Scaled (m * m') (e + f) (n * n') := by
  have hsum : e + f = ((e.toNat + f.toNat : Nat) : Int) - ((-e).toNat + (-f).toNat : Nat) := by
    omega
  unfold Scaled at h h'
  rw [scaled_iff _ _ hsum, Int.pow_add, Int.pow_add]
  calc m * m' * (2 ^ e.toNat * 2 ^ f.toNat)
    _ = m * 2 ^ e.toNat * (m' * 2 ^ f.toNat) := by ring
    _ = n * 2 ^ (-e).toNat * (n' * 2 ^ (-f).toNat) := by rw [h, h']
    _ = n * n' * (2 ^ (-e).toNat * 2 ^ (-f).toNat) := by ring

/-- Rounding to 53 digits is the same at every scale. -/
theorem nearest (h : Scaled m e n) : Scaled (nearest m) e (nearest n) := by
  unfold Scaled at *
  rw [← nearest_mul_two_pow, ← nearest_mul_two_pow, h]

theorem whole (n : Int) : Scaled n 0 n := rfl

theorem natCast_eq {m n : Nat} (h : Scaled m e n) : m * 2 ^ e.toNat = n * 2 ^ (-e).toNat := by
  unfold Scaled at h
  exact_mod_cast h

/-- A whole number has a digit before the point. -/
theorem log2_nonneg {m n : Nat} (h : Scaled m e n) (hm : m ≠ 0) : 0 ≤ m.log2 + e := by
  have hn : 0 < n := by
    rcases Nat.eq_zero_or_pos n with rfl | hn
    · simpa [hm] using h.natCast_eq
    · exact hn
  have hpower : 2 ^ (-e).toNat < 2 ^ (m.log2 + 1 + e.toNat) :=
    calc 2 ^ (-e).toNat
      _ ≤ n * 2 ^ (-e).toNat := Nat.le_mul_of_pos_left _ hn
      _ = m * 2 ^ e.toNat := h.natCast_eq.symm
      _ < 2 ^ (m.log2 + 1) * 2 ^ e.toNat :=
        Nat.mul_lt_mul_of_pos_right Nat.lt_log2_self (Nat.two_pow_pos _)
      _ = 2 ^ (m.log2 + 1 + e.toNat) := (Nat.pow_add ..).symm
  have hexponent := (Nat.pow_lt_pow_iff_right (by decide)).mp hpower
  omega

/-- A number below a power of two has no more digits before the point. -/
theorem log2_lt {m n k : Nat} (h : Scaled m e n) (hm : m ≠ 0) (hn : n < 2 ^ k) :
    m.log2 + e < k := by
  have hpower : 2 ^ (m.log2 + e.toNat) < 2 ^ (k + (-e).toNat) :=
    calc 2 ^ (m.log2 + e.toNat)
      _ = 2 ^ m.log2 * 2 ^ e.toNat := Nat.pow_add ..
      _ ≤ m * 2 ^ e.toNat := Nat.mul_le_mul_right _ (Nat.log2_self_le hm)
      _ = n * 2 ^ (-e).toNat := h.natCast_eq
      _ < 2 ^ k * 2 ^ (-e).toNat := Nat.mul_lt_mul_of_pos_right hn (Nat.two_pow_pos _)
      _ = 2 ^ (k + (-e).toNat) := (Nat.pow_add ..).symm
  have hexponent := (Nat.pow_lt_pow_iff_right (by decide)).mp hpower
  omega

end Scaled

/-! ## Rounding -/

/-- The exponent at which a mantissa has 53 digits. -/
theorem targetExponent_eq {m : Nat} {e : Int} (he : -1022 ≤ m.log2 + e) :
    Format.binary64.targetExponent (totalExponent m e) = m.log2 + e - 52 := by
  unfold Format.targetExponent totalExponent Format.minExponent Format.mantissaBits
  simp only
  omega

theorem shiftToTargetExponent_eq {m : Nat} {e : Int} (hm : 2 ^ 52 ≤ m) (he : -1022 ≤ m.log2 + e) :
    shiftToTargetExponent .binary64 m e .exact =
      (ExtendedMantissa.ofMantissaAndAccuracy m .exact >>> (m.log2 - 52),
        e + (m.log2 - 52 : Nat)) := by
  have hlog : 52 ≤ m.log2 := (Nat.le_log2 (by omega)).mpr hm
  have hshift : (Format.binary64.targetExponent (totalExponent m e) - e).toNat = m.log2 - 52 := by
    rw [targetExponent_eq he]
    omega
  unfold shiftToTargetExponent shiftToExponent
  simp only [hshift]

/-- After rounding there is nothing to shift out, unless it went up to a power of two. -/
theorem exists_second_shift {m : Nat} {e : Int} (hlow : 2 ^ 52 ≤ m) (hhigh : m ≤ 2 ^ 53)
    (he : -1074 ≤ e) :
    ∃ r j : Nat, shiftToTargetExponent .binary64 m e .exact =
        (.ofMantissaAndAccuracy r .exact, e + j) ∧
      2 ^ 52 ≤ r ∧ r < 2 ^ 53 ∧ r * 2 ^ j = m ∧ j ≤ 1 := by
  have h52 := (Nat.le_log2 (by omega)).mpr hlow
  rw [shiftToTargetExponent_eq hlow (by omega)]
  rcases Nat.lt_or_eq_of_le hhigh with hlt | rfl
  · have h53 := (Nat.log2_lt (by omega)).mpr hlt
    have hnone : m.log2 - 52 = 0 := by omega
    rw [hnone]
    exact ⟨m, 0, rfl, hlow, hlt, Nat.mul_one m, Nat.zero_le 1⟩
  · rw [Nat.log2_two_pow]
    exact ⟨2 ^ 52, 1, rfl, Nat.le_refl _, by decide, by decide, Nat.le_refl 1⟩

/-- A mantissa with at least 53 digits is rounded to 53 of them. -/
theorem exists_roundWithAccuracy {m : Nat} {e : Int} (s : Sign) (hm : 2 ^ 52 ≤ m)
    (he : -1022 ≤ m.log2 + e) :
    ∃ (r k : Nat) (hr : 0 < r), roundWithAccuracy .binary64 s m e .exact = .finite s r (e + k) hr ∧
      2 ^ 52 ≤ r ∧ r < 2 ^ 53 ∧ r * 2 ^ k = nearestNat m ∧ k ≤ m.log2 - 51 := by
  have hlog : 52 ≤ m.log2 := (Nat.le_log2 (by omega)).mpr hm
  obtain ⟨hlow, hhigh⟩ := roundDiv_lastPlace_bounds hm
  have hfirst :
      (ExtendedMantissa.ofMantissaAndAccuracy m .exact >>> (m.log2 - 52)).roundedMantissa =
        roundDiv m (lastPlace m) := by
    rw [((shows_exact m).shiftRight Nat.one_pos _).roundedMantissa, Nat.one_mul]
    rfl
  obtain ⟨r, j, hsecond, hrlow, hrhigh, hr, hj⟩ :=
    exists_second_shift (e := e + (m.log2 - 52 : Nat)) hlow hhigh (by omega)
  have hmantissa : (ExtendedMantissa.ofMantissaAndAccuracy r .exact).mantissa = r :=
    mantissa_ofMantissaAndAccuracy r .exact
  have hexponent : e + (m.log2 - 52 : Nat) + (j : Int) = e + (j + (m.log2 - 52) : Nat) := by omega
  refine ⟨r, j + (m.log2 - 52), by omega, ?_, hrlow, hrhigh, ?_, by omega⟩
  · unfold roundWithAccuracy
    simp only [shiftToTargetExponent_eq hm he, hfirst, hsecond, hmantissa, hexponent]
    rw [dif_neg (by omega)]
  · rw [Nat.pow_add, ← Nat.mul_assoc, hr]
    rfl

/-! ## Numbers that hold whole numbers -/

/-- The number is a whole number, and has all of its 53 digits if it is not a zero. -/
inductive Holds : UnpackedFloat → Int → Prop
  | zero (s : Sign) : Holds (.zero s) 0
  | finite {s : Sign} {m : Nat} {e n : Int} {hm : 0 < m} (low : 2 ^ 52 ≤ m) (high : m < 2 ^ 53)
      (small : e ≤ 971) (value : Scaled (s.apply m) e n) : Holds (.finite s m e hm) n

/-- The whole numbers that sums and products of 64 bits stay among. -/
def Moderate (n : Int) : Prop := n.natAbs < 2 ^ 130

theorem Scaled.natAbs {s : Sign} {m : Nat} {e n : Int} (h : Scaled (s.apply m) e n) :
    Scaled m e n.natAbs := by
  unfold Scaled at *
  have habs := congrArg Int.natAbs h
  have hsign : (s.apply m).natAbs = m := by cases s <;> simp [Sign.apply]
  rw [Int.natAbs_mul, Int.natAbs_mul, Int.natAbs_pow, Int.natAbs_pow, hsign] at habs
  exact_mod_cast habs

theorem nearest_apply (s : Sign) (m : Nat) : nearest (s.apply m) = s.apply (nearestNat m) := by
  cases s with
  | positive => exact nearest_natCast m
  | negative => exact (nearest_neg m).trans (congrArg _ (nearest_natCast m))

theorem apply_mul (s : Sign) (m n : Int) : s.apply (m * n) = s.apply m * n := by
  cases s with
  | positive => rfl
  | negative => exact (Int.neg_mul m n).symm

theorem holds_roundWithAccuracy {s : Sign} {m : Nat} {e n : Int} (hm : 2 ^ 52 ≤ m)
    (hn : Moderate n) (h : Scaled (s.apply m) e n) :
    Holds (roundWithAccuracy .binary64 s m e .exact) (nearest n) := by
  have hnonneg := h.natAbs.log2_nonneg (by omega)
  have hlt := h.natAbs.log2_lt (by omega) hn
  obtain ⟨r, k, hr, heq, hrlow, hrhigh, hvalue, hk⟩ :=
    exists_roundWithAccuracy s (e := e) hm (by omega)
  have hlog : 52 ≤ m.log2 := (Nat.le_log2 (by omega)).mpr hm
  rw [heq]
  refine .finite hrlow hrhigh (by omega) ((Scaled.shift_iff k).mp ?_)
  have hscaled := h.nearest
  rwa [nearest_apply, ← hvalue, Nat.cast_mul, Nat.cast_pow, apply_mul] at hscaled

theorem holds_round {s : Sign} {m : Nat} {e n : Int} (hm : 0 < m) (hn : Moderate n)
    (h : Scaled (s.apply m) e n) : Holds (UnpackedFloat.round .binary64 s m e) (nearest n) := by
  have hnonneg := h.natAbs.log2_nonneg (by omega)
  have hlog : 2 ^ m.log2 ≤ m := Nat.log2_self_le (by omega)
  have hshift : (e - Format.binary64.targetExponent (totalExponent m e)).toNat = 52 - m.log2 := by
    rw [targetExponent_eq (by omega)]
    omega
  unfold UnpackedFloat.round decreaseExponent
  simp only [hshift, Nat.shiftLeft_eq]
  refine holds_roundWithAccuracy ?_ hn ?_
  · calc 2 ^ 52
      _ ≤ 2 ^ (m.log2 + (52 - m.log2)) := Nat.pow_le_pow_right (by decide) (by omega)
      _ = 2 ^ m.log2 * 2 ^ (52 - m.log2) := Nat.pow_add ..
      _ ≤ m * 2 ^ (52 - m.log2) := Nat.mul_le_mul_right _ hlog
  · rw [Nat.cast_mul, apply_mul, Nat.cast_pow]
    refine (Scaled.shift_iff _).mpr ?_
    rwa [Int.sub_add_cancel]

theorem holds_normalize {m e n : Int} {zero : Sign} (hn : Moderate n) (h : Scaled m e n) :
    Holds (UnpackedFloat.normalize .binary64 m e zero) (nearest n) := by
  unfold UnpackedFloat.normalize
  split
  · rename_i hneg
    rw [Int.compare_eq_lt] at hneg
    refine holds_round (by omega) hn ?_
    rw [Int.toNat_of_nonneg (by omega)]
    simpa [Sign.apply] using h
  · rename_i hzero
    rw [Int.compare_eq_eq] at hzero
    subst hzero
    have hnone : Scaled 0 e 0 := (Int.zero_mul _).trans (Int.zero_mul _).symm
    rw [h.unique hnone]
    exact .zero zero
  · rename_i hpos
    rw [Int.compare_eq_gt] at hpos
    refine holds_round (by omega) hn ?_
    rw [Int.toNat_of_nonneg (by omega)]
    exact h

/-! ## Operations -/

variable {u v : UnpackedFloat} {a b : Int}

theorem neg_apply (s : Sign) (m : Int) : (-s).apply m = -s.apply m := by
  cases s with
  | positive => rfl
  | negative => exact (Int.neg_neg m).symm

theorem mul_apply (s t : Sign) (m n : Int) : (s * t).apply (m * n) = s.apply m * t.apply n := by
  cases s <;> cases t
  · exact (Int.neg_mul_neg m n).symm
  · exact (Int.neg_mul m n).symm
  · exact (Int.mul_neg m n).symm
  · rfl

/-- A number that is held is not rounded. -/
theorem Holds.nearest_eq (h : Holds u a) : nearest a = a := by
  cases h with
  | zero s => rfl
  | finite low high small value =>
    have hscaled := value.nearest
    rw [nearest_apply, nearestNat_of_lt high] at hscaled
    exact hscaled.unique value

theorem holds_neg (h : Holds u a) : Holds u.neg (-a) := by
  cases h with
  | zero s => exact .zero (-s)
  | finite low high small value =>
    refine .finite low high small ?_
    rw [neg_apply]
    exact value.neg

/-- A mantissa with more digits, for a smaller exponent. -/
theorem Scaled.decreaseExponent {s : Sign} {m : Nat} {e t n : Int} (ht : t ≤ e)
    (h : Scaled (s.apply m) e n) : Scaled (s.apply (decreaseExponent m e t).1) t n := by
  unfold UnpackedFloat.decreaseExponent
  simp only
  rw [Nat.shiftLeft_eq, Nat.cast_mul, Nat.cast_pow, apply_mul]
  refine (Scaled.shift_iff _).mpr ?_
  rwa [show t + ((e - t).toNat : Int) = e by omega]

theorem holds_add (hu : Holds u a) (hv : Holds v b) (hn : Moderate (a + b)) :
    Holds (u.add .binary64 v) (nearest (a + b)) := by
  have hfirst := hu.nearest_eq
  cases hu with
  | zero s =>
    rw [Int.zero_add, hv.nearest_eq]
    cases hv with
    | zero t => cases s <;> cases t <;> exact .zero _
    | finite low high small value => exact .finite low high small value
  | finite low high small value =>
    cases hv with
    | zero t =>
      rw [Int.add_zero] at hn ⊢
      rw [hfirst]
      exact .finite low high small value
    | finite low' high' small' value' =>
      exact holds_normalize hn ((value.decreaseExponent (Int.min_le_left ..)).add
        (value'.decreaseExponent (Int.min_le_right ..)))

theorem sub_eq_add_neg (spec : Format) (u v : UnpackedFloat) : u.sub spec v = u.add spec v.neg := by
  cases u with
  | finite s m e hm =>
    cases v with
    | finite t n f hn =>
      unfold UnpackedFloat.sub UnpackedFloat.add UnpackedFloat.neg
      simp only [neg_apply, Int.sub_eq_add_neg]
    | zero t | infinity t | notANumber => rfl
  | zero s | infinity s | notANumber => cases v <;> rfl

theorem holds_sub (hu : Holds u a) (hv : Holds v b) (hn : Moderate (a - b)) :
    Holds (u.sub .binary64 v) (nearest (a - b)) := by
  rw [Int.sub_eq_add_neg] at hn ⊢
  rw [sub_eq_add_neg]
  exact holds_add hu (holds_neg hv) hn

theorem holds_mul (hu : Holds u a) (hv : Holds v b) (hn : Moderate (a * b)) :
    Holds (u.mul .binary64 v) (nearest (a * b)) := by
  cases hu with
  | zero s =>
    rw [Int.zero_mul]
    cases hv with
    | zero t => exact .zero _
    | finite low high small value => exact .zero _
  | finite low high small value =>
    cases hv with
    | zero t =>
      rw [Int.mul_zero]
      exact .zero _
    | finite low' high' small' value' =>
      refine holds_roundWithAccuracy (Nat.le_trans low (Nat.le_mul_of_pos_right _ (by omega))) hn ?_
      rw [Nat.cast_mul, mul_apply]
      exact value.mul value'

theorem holds_ofNat {n : Nat} (hn : Moderate n) :
    Holds (UnpackedFloat.ofNat .binary64 n) (nearest n) :=
  holds_normalize hn (Scaled.whole n)

/-- Digits are read as a product with a power of ten, here with one. -/
theorem holds_mul_one {n one k : Nat} (hn : Moderate n) (hone : one = 1) (hk : 52 ≤ k)
    (hpos : 0 < n <<< k) (hposOne : 0 < one) :
    Holds (UnpackedFloat.mul .binary64 (.finite .positive (n <<< k) (-(k : Int)) hpos)
      (.finite .positive one 0 hposOne)) (nearest n) := by
  subst hone
  unfold UnpackedFloat.mul
  simp only [Nat.mul_one, Int.add_zero, Nat.shiftLeft_eq] at hpos ⊢
  have hlarge : 2 ^ 52 ≤ n * 2 ^ k :=
    Nat.le_trans (Nat.pow_le_pow_right (by decide) hk)
      (Nat.le_mul_of_pos_left _ (Nat.pos_of_mul_pos_right hpos))
  refine holds_roundWithAccuracy hlarge hn ?_
  show Scaled (n * 2 ^ k : Nat) (-(k : Int)) n
  rw [Nat.cast_mul, Nat.cast_pow]
  refine (Scaled.shift_iff k).mpr ?_
  rw [Int.add_left_neg]
  exact Scaled.whole n

theorem holds_ofScientific {n : Nat} (hn : Moderate n) :
    Holds (UnpackedFloat.ofScientific .binary64 n 0) (nearest n) := by
  have hlimit : (0 : Int) ≤ 2 ^ Format.binary64.exponentBits := by decide
  unfold UnpackedFloat.ofScientific
  split
  · rename_i hzero
    subst hzero
    exact .zero _
  · rw [if_neg (by omega), if_neg (by omega), if_pos (Int.le_refl 0)]
    exact holds_mul_one hn (Nat.pow_zero 10) (by decide) _ _

end Verdict.Decimal
