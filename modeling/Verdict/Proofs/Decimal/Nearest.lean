-- Whole numbers that a floating-point number can hold: 53 binary digits, and zeros
-- behind them. Every whole number has a nearest one of these.
import Mathlib
import Verdict.Proofs.Decimal.Fixed

namespace Verdict.Decimal

/-! ## Rounded quotients -/

theorem le_roundDiv (num den : Nat) : num / den ≤ roundDiv num den := by
  unfold roundDiv
  simp only
  split
  · exact Nat.le_refl _
  · split <;> omega

theorem roundDiv_mul_right {c : Nat} (hc : 0 < c) (num den : Nat) :
    roundDiv (num * c) (den * c) = roundDiv num den := by
  unfold roundDiv
  have htwice : 2 * (num * c % (den * c)) = 2 * (num % den) * c := by
    rw [Nat.mul_mod_mul_right, Nat.mul_assoc]
  simp only [Nat.mul_div_mul_right _ _ hc, htwice, Nat.mul_lt_mul_right hc]

/-- Equal quotients are rounded to the same number. -/
theorem roundDiv_congr {a b c d : Nat} (hb : 0 < b) (hd : 0 < d) (h : a * d = c * b) :
    roundDiv a b = roundDiv c d := by
  rw [← roundDiv_mul_right hd, h, Nat.mul_comm b d, roundDiv_mul_right hb]

theorem roundDiv_mul_cancel {num den : Nat} (hden : 0 < den) (h : den ∣ num) :
    roundDiv num den * den = num := by
  obtain ⟨q, rfl⟩ := h
  have hq : den * q * 1 = q * den := (Nat.mul_one _).trans (Nat.mul_comm ..)
  rw [roundDiv_congr hden Nat.one_pos hq, roundDiv_one, Nat.mul_comm]

/-- No other multiple of the divisor is nearer. -/
theorem roundDiv_nearest {num den : Nat} (h : 0 < den) (q : Nat) :
    ((roundDiv num den * den : Nat) - num : Int).natAbs ≤ ((q * den : Nat) - num : Int).natAbs := by
  obtain ⟨hhigh, hlow⟩ := roundDiv_near num den h
  rcases Nat.lt_trichotomy q (roundDiv num den) with hq | rfl | hq
  · have hstep : (q + 1) * den ≤ roundDiv num den * den := Nat.mul_le_mul_right _ hq
    rw [Nat.succ_mul] at hstep
    omega
  · exact Nat.le_refl _
  · have hstep : (roundDiv num den + 1) * den ≤ q * den := Nat.mul_le_mul_right _ hq
    rw [Nat.succ_mul] at hstep
    omega

/-! ## The last digit -/

/-- What the last of the first 53 binary digits stands for; one, if there are no more. -/
def lastPlace (n : Nat) : Nat := 2 ^ (n.log2 - 52)

theorem lastPlace_pos (n : Nat) : 0 < lastPlace n := Nat.two_pow_pos _

theorem lastPlace_of_lt {n : Nat} (h : n < 2 ^ 53) : lastPlace n = 1 := by
  unfold lastPlace
  by_cases hn : n = 0
  · subst hn
    rfl
  · have hlog : n.log2 < 53 := (Nat.log2_lt hn).mpr h
    rw [Nat.sub_eq_zero_of_le (by omega), Nat.pow_zero]

theorem log2_mul_two_pow {n : Nat} (h : n ≠ 0) (k : Nat) : (n * 2 ^ k).log2 = n.log2 + k := by
  have hpower : 0 < 2 ^ k := Nat.two_pow_pos k
  refine (Nat.log2_eq_iff (Nat.mul_ne_zero h hpower.ne')).mpr ⟨?_, ?_⟩
  · rw [Nat.pow_add]
    exact Nat.mul_le_mul_right _ (Nat.log2_self_le h)
  · rw [Nat.add_right_comm, Nat.pow_add]
    exact Nat.mul_lt_mul_of_pos_right Nat.lt_log2_self hpower

theorem lastPlace_mul_two_pow {n : Nat} (h : 2 ^ 52 ≤ n) (k : Nat) :
    lastPlace (n * 2 ^ k) = lastPlace n * 2 ^ k := by
  have hne : n ≠ 0 := by rintro rfl; simp at h
  have hlog : 52 ≤ n.log2 := (Nat.le_log2 hne).mpr h
  unfold lastPlace
  rw [log2_mul_two_pow hne, ← Nat.pow_add, Nat.sub_add_comm hlog]

/-- The first 53 digits, as a number. -/
theorem div_lastPlace_bounds {n : Nat} (h : 2 ^ 52 ≤ n) :
    2 ^ 52 ≤ n / lastPlace n ∧ n / lastPlace n < 2 ^ 53 := by
  have hne : n ≠ 0 := by rintro rfl; simp at h
  have hlog : 52 ≤ n.log2 := (Nat.le_log2 hne).mpr h
  have hlow : 2 ^ n.log2 ≤ n := Nat.log2_self_le hne
  have hhigh : n < 2 ^ (n.log2 + 1) := Nat.lt_log2_self
  unfold lastPlace
  refine ⟨(Nat.le_div_iff_mul_le (Nat.two_pow_pos _)).mpr ?_,
    (Nat.div_lt_iff_lt_mul (Nat.two_pow_pos _)).mpr ?_⟩
  · rwa [← Nat.pow_add, Nat.add_sub_cancel' hlog]
  · rwa [← Nat.pow_add, show 53 + (n.log2 - 52) = n.log2 + 1 by omega]

theorem mul_lastPlace_le {n : Nat} (h : 2 ^ 52 ≤ n) :
    2 ^ 52 * lastPlace n ≤ n ∧ n < 2 ^ 53 * lastPlace n := by
  obtain ⟨hlow, hhigh⟩ := div_lastPlace_bounds h
  exact ⟨(Nat.le_div_iff_mul_le (lastPlace_pos n)).mp hlow,
    (Nat.div_lt_iff_lt_mul (lastPlace_pos n)).mp hhigh⟩

/-! ## Short numbers -/

/-- There are at most 53 binary digits, apart from zeros at the end. -/
def IsShort (n : Int) : Prop := ∃ m k : Nat, m < 2 ^ 53 ∧ n.natAbs = m * 2 ^ k

theorem isShort_neg {n : Int} (h : IsShort n) : IsShort (-n) := by
  unfold IsShort
  rwa [Int.natAbs_neg]

theorem isShort_of_le {n : Int} (h : n.natAbs ≤ 2 ^ 53) : IsShort n := by
  rcases Nat.lt_or_eq_of_le h with hlt | heq
  · exact ⟨n.natAbs, 0, hlt, (Nat.mul_one _).symm⟩
  · exact ⟨1, 53, by decide, heq⟩

/-- A short number that is not smaller has no digits behind the last place. -/
theorem lastPlace_dvd {m n k : Nat} (hm : m < 2 ^ 53) (h : 2 ^ 52 * lastPlace n ≤ m * 2 ^ k) :
    lastPlace n ∣ m * 2 ^ k := by
  unfold lastPlace at h ⊢
  have hpower : 2 ^ (52 + (n.log2 - 52)) < 2 ^ (53 + k) := by
    rw [Nat.pow_add, Nat.pow_add]
    exact Nat.lt_of_le_of_lt h (Nat.mul_lt_mul_of_pos_right hm (Nat.two_pow_pos k))
  have hle : n.log2 - 52 ≤ k := by
    have := (Nat.pow_lt_pow_iff_right (by decide)).mp hpower
    omega
  exact Dvd.dvd.mul_left (Nat.pow_dvd_pow 2 hle) m

/-! ## The nearest number -/

/-- The nearest of the numbers with at most 53 digits before zeros. Of two that are equally near,
the one with an even last digit. -/
def nearestNat (n : Nat) : Nat := roundDiv n (lastPlace n) * lastPlace n

def nearest (n : Int) : Int := n.sign * nearestNat n.natAbs

theorem nearest_natCast (n : Nat) : nearest n = nearestNat n := by
  unfold nearest
  rw [Int.natAbs_natCast]
  by_cases hn : n = 0
  · subst hn
    rfl
  · rw [Int.sign_natCast_of_ne_zero hn, Int.one_mul]

theorem nearest_neg (n : Int) : nearest (-n) = -nearest n := by
  unfold nearest
  rw [Int.sign_neg, Int.natAbs_neg, Int.neg_mul]

theorem natAbs_nearest (n : Int) : (nearest n).natAbs = nearestNat n.natAbs := by
  rcases Int.natAbs_eq n with hn | hn
  · rw [hn, nearest_natCast]
    rfl
  · rw [hn, nearest_neg, nearest_natCast, Int.natAbs_neg, Int.natAbs_neg]
    rfl

theorem nearestNat_of_lt {n : Nat} (h : n < 2 ^ 53) : nearestNat n = n := by
  unfold nearestNat
  rw [lastPlace_of_lt h, Nat.mul_one, roundDiv_one]

theorem nearestNat_of_short {m k : Nat} (hm : m < 2 ^ 53) : nearestNat (m * 2 ^ k) = m * 2 ^ k := by
  by_cases hsize : m * 2 ^ k < 2 ^ 53
  · exact nearestNat_of_lt hsize
  · have hlong : 2 ^ 52 ≤ m * 2 ^ k := by omega
    exact roundDiv_mul_cancel (lastPlace_pos _) (lastPlace_dvd hm (mul_lastPlace_le hlong).1)

theorem nearestNat_mul_two_pow (n k : Nat) : nearestNat (n * 2 ^ k) = nearestNat n * 2 ^ k := by
  by_cases hsize : n < 2 ^ 53
  · rw [nearestNat_of_short hsize, nearestNat_of_lt hsize]
  · unfold nearestNat
    rw [lastPlace_mul_two_pow (by omega), roundDiv_mul_right (Nat.two_pow_pos k), Nat.mul_assoc]

theorem nearest_mul_two_pow (n : Int) (k : Nat) : nearest (n * 2 ^ k) = nearest n * 2 ^ k := by
  have hnat (m : Nat) : nearest (m * 2 ^ k) = nearest m * 2 ^ k := by
    rw [← Nat.cast_ofNat, ← Nat.cast_pow, ← Nat.cast_mul, nearest_natCast, nearest_natCast,
      nearestNat_mul_two_pow, Nat.cast_mul]
  rcases Int.natAbs_eq n with hn | hn
  · rw [hn, hnat]
  · rw [hn, Int.neg_mul, nearest_neg, nearest_neg, hnat, Int.neg_mul]

/-- The digits that are kept, rounded: 53 of them, or the next power of two. -/
theorem roundDiv_lastPlace_bounds {n : Nat} (h : 2 ^ 52 ≤ n) :
    2 ^ 52 ≤ roundDiv n (lastPlace n) ∧ roundDiv n (lastPlace n) ≤ 2 ^ 53 := by
  obtain ⟨hlow, hhigh⟩ := div_lastPlace_bounds h
  have hdown := le_roundDiv n (lastPlace n)
  have hup := roundDiv_le n (lastPlace n)
  omega

theorem isShort_nearest (n : Int) : IsShort (nearest n) := by
  unfold IsShort
  rw [natAbs_nearest]
  generalize n.natAbs = n
  by_cases hsize : n < 2 ^ 53
  · exact ⟨n, 0, hsize, by rw [nearestNat_of_lt hsize, Nat.pow_zero, Nat.mul_one]⟩
  · obtain ⟨-, hhigh⟩ := roundDiv_lastPlace_bounds (n := n) (by omega)
    rcases Nat.lt_or_eq_of_le hhigh with hlt | heq
    · exact ⟨roundDiv n (lastPlace n), n.log2 - 52, hlt, rfl⟩
    · refine ⟨1, 53 + (n.log2 - 52), by decide, ?_⟩
      unfold nearestNat lastPlace at *
      rw [heq, Nat.one_mul, Nat.pow_add]

/-- A number is its own nearest one exactly if it is short. -/
theorem nearest_eq_iff (n : Int) : nearest n = n ↔ IsShort n := by
  constructor
  · intro h
    rw [← h]
    exact isShort_nearest n
  · rintro ⟨m, k, hm, hn⟩
    have hnat : nearestNat n.natAbs = n.natAbs := by rw [hn, nearestNat_of_short hm]
    unfold nearest
    rw [hnat, Int.sign_mul_natAbs]

instance (n : Int) : Decidable (IsShort n) := decidable_of_iff _ (nearest_eq_iff n)

theorem nearest_nearest (n : Int) : nearest (nearest n) = nearest n :=
  (nearest_eq_iff _).mpr (isShort_nearest n)

theorem natAbs_nearest_le (n : Int) : (nearest n).natAbs ≤ 2 * n.natAbs := by
  rw [natAbs_nearest]
  generalize n.natAbs = n
  by_cases hsize : n < 2 ^ 53
  · rw [nearestNat_of_lt hsize]
    omega
  · have hplace := (mul_lastPlace_le (n := n) (by omega)).1
    have hhigh := (roundDiv_near n (lastPlace n) (lastPlace_pos n)).1
    unfold nearestNat
    omega

/-- No short number is nearer. -/
theorem nearest_is_nearest {m : Int} (n : Int) (hm : IsShort m) :
    (nearest n - n).natAbs ≤ (m - n).natAbs := by
  -- Below 2 ^ 52 places every number is farther than this one, and from there on all short
  -- numbers are multiples of the last place.
  have hnat (n : Nat) {m : Int} (hm : IsShort m) : (nearest n - n).natAbs ≤ (m - n).natAbs := by
    rw [nearest_natCast]
    by_cases hsize : n < 2 ^ 53
    · rw [nearestNat_of_lt hsize]
      omega
    have hgrid (q : Nat) := @roundDiv_nearest n _ (lastPlace_pos n) q
    have hplace := (mul_lastPlace_le (n := n) (by omega)).1
    by_cases hlow : m < (2 ^ 52 * lastPlace n : Nat)
    · exact Nat.le_trans (hgrid (2 ^ 52)) (by omega)
    · obtain ⟨d, k, hd, hdigits⟩ := hm
      obtain ⟨q, hq⟩ : lastPlace n ∣ d * 2 ^ k := lastPlace_dvd hd (by omega)
      have hmq : m = (q * lastPlace n : Nat) := by
        rw [Nat.mul_comm, ← hq]
        omega
      rw [hmq]
      exact hgrid q
  rcases Int.natAbs_eq n with hn | hn
  · rw [hn]
    exact hnat _ hm
  · have hside := hnat n.natAbs (isShort_neg hm)
    rw [hn, nearest_neg]
    omega

end Verdict.Decimal
