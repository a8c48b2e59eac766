-- Numbers with a fixed number of places are read again. The rounding to places
-- does not lead beyond the largest finite number, so a finite number in text is
-- read as a finite one; the texts of the others are no numbers.
import Verdict.Decimal.Fixed
import Verdict.Decimal.Reading
import Verdict.Proofs.Decimal.Rounding
import Verdict.Proofs.Text.Digits

namespace Verdict.Decimal

/-! ## The form -/

/-- The digits before the point. -/
def wholeDigits (places units : Nat) : List Char :=
  (Text.padded (places + 1) units).take ((Text.padded (places + 1) units).length - places)

/-- The digits after the point. -/
def fractionDigits (places units : Nat) : List Char :=
  (Text.padded (places + 1) units).drop ((Text.padded (places + 1) units).length - places)

theorem wholeDigits_append (places units : Nat) :
    wholeDigits places units ++ fractionDigits places units = Text.padded (places + 1) units :=
  List.take_append_drop ..

theorem isDigit_of_mem_wholeDigits {places units : Nat} {c : Char}
    (h : c ∈ wholeDigits places units) : c.isDigit = true :=
  Text.isDigit_of_mem_padded (List.mem_of_mem_take h)

theorem isDigit_of_mem_fractionDigits {places units : Nat} {c : Char}
    (h : c ∈ fractionDigits places units) : c.isDigit = true :=
  Text.isDigit_of_mem_padded (List.mem_of_mem_drop h)

theorem length_fractionDigits (places units : Nat) :
    (fractionDigits places units).length = places := by
  have hlength := Text.le_length_padded (places + 1) units
  unfold fractionDigits
  rw [List.length_drop]
  omega

theorem wholeDigits_ne_nil (places units : Nat) : wholeDigits places units ≠ [] := by
  have hlength := Text.le_length_padded (places + 1) units
  intro hnil
  have hzero := congrArg List.length hnil
  unfold wholeDigits at hzero
  rw [List.length_take, List.length_nil] at hzero
  omega

theorem pointed_eq (places units : Nat) : pointed places units =
    wholeDigits places units ++
      if places = 0 then [] else '.' :: fractionDigits places units := by
  unfold pointed
  simp only
  split
  · exact (List.append_nil _).symm
  · rfl

/-- The numeral of a number of units. -/
def unitNumeral (negative : Bool) (places units : Nat) : Numeral :=
  ⟨negative, wholeDigits places units, fractionDigits places units, 0⟩

theorem mantissa_unitNumeral (negative : Bool) (places units : Nat) :
    (unitNumeral negative places units).mantissa = units := by
  unfold Numeral.mantissa unitNumeral
  rw [wholeDigits_append, Text.ofDigitChars_padded]

theorem power_unitNumeral (negative : Bool) (places units : Nat) :
    (unitNumeral negative places units).power = -(places : Int) := by
  unfold Numeral.power unitNumeral
  simp only
  rw [length_fractionDigits, Int.zero_sub]

theorem readUnsigned?_pointed (negative : Bool) (places units : Nat) :
    readUnsigned? negative (pointed places units) = some (unitNumeral negative places units) := by
  have hwhole : ∀ c ∈ wholeDigits places units, c.isDigit = true :=
    fun _ hc => isDigit_of_mem_wholeDigits hc
  have hfraction : ∀ c ∈ fractionDigits places units, c.isDigit = true :=
    fun _ hc => isDigit_of_mem_fractionDigits hc
  have hne : ¬ (wholeDigits places units = [] ∧ fractionDigits places units = []) :=
    fun h => wholeDigits_ne_nil places units h.1
  have hstop : ∀ c ∈ (if places = 0 then [] else '.' :: fractionDigits places units).head?,
      c.isDigit = false := by
    intro c hc
    split at hc
    · cases hc
    · cases hc
      rfl
  unfold readUnsigned?
  rw [pointed_eq, Text.takeWhile_run hwhole hstop, Text.dropWhile_run hwhole hstop]
  by_cases hplaces : places = 0
  · have hnil : fractionDigits places units = [] :=
      List.eq_nil_of_length_eq_zero ((length_fractionDigits places units).trans hplaces)
    rw [if_pos hplaces]
    simp [wholeDigits_ne_nil, readTail?, unitNumeral, hnil]
  · have htake : (fractionDigits places units).takeWhile Char.isDigit =
        fractionDigits places units := List.takeWhile_eq_self_iff.mpr hfraction
    have hdrop : (fractionDigits places units).dropWhile Char.isDigit = [] :=
      List.dropWhile_eq_nil_iff.mpr hfraction
    rw [if_neg hplaces]
    simp [wholeDigits_ne_nil, readTail?, unitNumeral, htake, hdrop]

theorem isBlank_pointed {places units : Nat} {c : Char} (h : c ∈ pointed places units) :
    Text.isBlank c = false := by
  rw [pointed_eq] at h
  rcases List.mem_append.mp h with h | h
  · exact Text.isBlank_of_isDigit (isDigit_of_mem_wholeDigits h)
  · split at h
    · cases h
    · rcases List.mem_cons.mp h with rfl | h
      · decide
      · exact Text.isBlank_of_isDigit (isDigit_of_mem_fractionDigits h)

/-- No digit is a sign, so nothing is taken off the digits. -/
theorem readNumeral?_pointed (places units : Nat) :
    readNumeral? (pointed places units) = some (unitNumeral false places units) := by
  have hhead : ∀ c rest, pointed places units = c :: rest → c.isDigit = true := by
    intro c rest heq
    rcases hwhole : wholeDigits places units with _ | ⟨d, ds⟩
    · exact absurd hwhole (wholeDigits_ne_nil places units)
    · rw [pointed_eq, hwhole, List.cons_append] at heq
      cases heq
      exact isDigit_of_mem_wholeDigits (by rw [hwhole]; exact List.mem_cons_self)
  unfold readNumeral?
  split
  · rename_i heq
    exact absurd rfl (Text.ne_sign_of_isDigit (hhead _ _ heq)).1
  · rename_i heq
    exact absurd rfl (Text.ne_sign_of_isDigit (hhead _ _ heq)).2
  · exact readUnsigned?_pointed false places units

theorem readNumeral?_minus (places units : Nat) :
    readNumeral? ('-' :: pointed places units) = some (unitNumeral true places units) :=
  readUnsigned?_pointed true places units

/-! ## The size -/

theorem roundDiv_le (num den : Nat) : roundDiv num den ≤ num / den + 1 := by
  unfold roundDiv
  simp only
  split
  · omega
  · split <;> omega

theorem roundDiv_one (num : Nat) : roundDiv num 1 = num := by
  unfold roundDiv
  simp [Nat.mod_one]

theorem binary_bounds {x : Float} (h : isFinite x = true) :
    (Binary.ofFloat x).mantissa < 2 ^ 53 ∧ (Binary.ofFloat x).exponent ≤ 971 := by
  have hfraction : fractionBits x < 2 ^ 52 := Nat.mod_lt _ (by decide)
  have hexponent : exponentBits x < 2 ^ 11 := Nat.mod_lt _ (by decide)
  have hfinite : exponentBits x ≠ 2047 := bne_iff_ne.mp h
  have htwo : twoTo 52 = 2 ^ 52 := rfl
  unfold Binary.ofFloat
  split
  · exact ⟨by simp only; omega, by simp only; omega⟩
  · exact ⟨by simp only; omega, by simp only; omega⟩

/-- A large number is whole and stays as it is; below 2 ^ 53 there is room for rounding up. -/
theorem roundDiv_le_largest {x : Float} (h : isFinite x = true) (places : Nat) :
    roundDiv ((Binary.ofFloat x).num * tenTo places) (Binary.ofFloat x).den ≤
      largestAt 0 * 10 ^ places := by
  obtain ⟨hmantissa, hexponent⟩ := binary_bounds h
  generalize Binary.ofFloat x = b at *
  by_cases hwhole : 0 ≤ b.exponent
  · have hden : b.den = 1 := by
      unfold Binary.den
      rw [Int.toNat_of_nonpos (by omega)]
      rfl
    rw [hden, roundDiv_one]
    exact Nat.mul_le_mul_right _ (le_largestAt hmantissa (by omega))
  · have hnum : b.num = b.mantissa := by
      unfold Binary.num
      rw [Int.toNat_of_nonpos (by omega), twoTo_zero, Nat.mul_one]
    have hpower : 1 ≤ tenTo places := tenTo_pos places
    have hroom : 2 ^ 53 ≤ largestAt 0 := two_pow_le_largestAt (by decide)
    calc roundDiv (b.num * tenTo places) b.den
      _ ≤ b.num * tenTo places / b.den + 1 := roundDiv_le ..
      _ ≤ b.mantissa * tenTo places + tenTo places :=
        Nat.add_le_add (hnum ▸ Nat.div_le_self _ _) hpower
      _ = (b.mantissa + 1) * tenTo places := (Nat.succ_mul ..).symm
      _ ≤ largestAt 0 * 10 ^ places := Nat.mul_le_mul_right _ (by omega)

/-! ## The number -/

theorem largestAt_lt : largestAt 0 < 10 ^ 309 := by decide +kernel

theorem isFinite_unitNumeral {places units : Nat} (negative : Bool)
    (h : units ≤ largestAt 0 * 10 ^ places) :
    isFinite (unitNumeral negative places units).toFloat = true := by
  have hzero : isFinite 0 = true := by decide +kernel
  have hlength : (Text.natDigits units).length ≤ 309 + places := by
    have hpower : 0 < 10 ^ places := Nat.pow_pos (by decide)
    have hsum : ∀ k, 10 ^ k * 10 ^ places = 10 ^ (k + places) := fun k => (Nat.pow_add ..).symm
    refine (Nat.length_toDigits_le_iff (by decide) (by omega)).mpr ?_
    calc units ≤ largestAt 0 * 10 ^ places := h
      _ < 10 ^ 309 * 10 ^ places := (Nat.mul_lt_mul_right hpower).mpr largestAt_lt
      _ = 10 ^ (309 + places) := hsum 309
  unfold Numeral.toFloat
  rw [mantissa_unitNumeral, power_unitNumeral]
  have hsize : isFinite
      (if units = 0 then 0
      else if 310 < -(places : Int) + (Text.natDigits units).length then
        Float.ofBits 0x7FF0000000000000
      else if -(places : Int) + (Text.natDigits units).length < -400 then 0
      else Float.ofScientific units (decide (-(places : Int) < 0)) (-(places : Int)).natAbs) =
        true := by
    split
    · exact hzero
    split
    · omega
    split
    · exact hzero
    · rw [Int.natAbs_neg, Int.natAbs_natCast]
      refine isFinite_ofScientific h _ fun hdown => ?_
      have := of_decide_eq_false hdown
      omega
  cases negative with
  | false => exact hsize
  | true => exact isFinite_neg hsize

/-! ## The text -/

theorem fixed_of_finite {x : Float} (h : isFinite x = true) (places : Nat) :
    fixed places x = (if isNegative x = true then ['-'] else []) ++
      pointed places
        (roundDiv ((Binary.ofFloat x).num * tenTo places) (Binary.ofFloat x).den) := by
  unfold fixed
  rw [h]
  simp only [if_true, Bool.true_or, Bool.and_true]
  split <;> rfl

/-- The text of a finite number is read as a finite number. -/
theorem isSome_readFloat?_fixed {x : Float} (h : isFinite x = true) (places : Nat) :
    (readFloat? (String.ofList (fixed places x))).isSome = true := by
  have hblank : ∀ c ∈ fixed places x, Text.isBlank c = false := by
    intro c hc
    rw [fixed_of_finite h] at hc
    rcases List.mem_append.mp hc with hc | hc
    · split at hc
      · rw [List.mem_singleton.mp hc]
        decide
      · cases hc
    · exact isBlank_pointed hc
  have hread : ∃ n, readNumeral? (fixed places x) = some n ∧ isFinite n.toFloat = true := by
    have hfinite := fun negative => isFinite_unitNumeral negative (roundDiv_le_largest h places)
    rw [fixed_of_finite h]
    split
    · exact ⟨_, readNumeral?_minus .., hfinite true⟩
    · exact ⟨_, readNumeral?_pointed .., hfinite false⟩
  obtain ⟨n, hn, hfinite⟩ := hread
  unfold readFloat?
  rw [String.toList_ofList, Text.trim_of_no_blank hblank, hn]
  simp only [hfinite, if_true, Option.isSome_some]

/-- The texts of infinities and of failed results are no numbers. -/
theorem readFloat?_fixed_of_not_finite {x : Float} (h : isFinite x = false) (places : Nat) :
    readFloat? (String.ofList (fixed places x)) = none := by
  unfold fixed
  rw [h]
  simp only [Bool.false_eq_true, if_false, Bool.false_or]
  cases isInfinite x <;> cases isNegative x <;> decide +kernel

end Verdict.Decimal
