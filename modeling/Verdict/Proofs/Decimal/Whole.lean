-- A text that is read as a whole number is read as a number too. It is a numeral
-- without a point and an exponent, and far below the largest finite number.
import Verdict.Proofs.Decimal.Fixed
import Verdict.Value.Kind

namespace Verdict.Decimal

/-! ## The form -/

theorem eq_some_of_checked {r : Option Int} {n : Int}
    (h : (r.bind fun m => if Text.inInt64 m = true then some m else none) = some n) :
    r = some n ∧ Text.inInt64 n = true := by
  obtain ⟨m, hm, h⟩ := Option.bind_eq_some_iff.mp h
  split at h
  · cases h
    exact ⟨hm, ‹_›⟩
  · cases h

/-- A whole number in text is a sign or none, and digits. -/
theorem exists_of_readInt? {cs : List Char} {n : Int} (h : Text.readInt? cs = some n) :
    Text.inInt64 n = true ∧ ∃ (digits : List Char) (m : Nat), Text.readDigits? digits = some m ∧
      (cs = '-' :: digits ∧ n = -m ∨ cs = '+' :: digits ∧ n = m ∨ cs = digits ∧ n = m) := by
  unfold Text.readInt? at h
  simp only [Option.pure_def, Option.bind_eq_bind] at h
  split at h
  · rename_i digits
    obtain ⟨hn, hrange⟩ := eq_some_of_checked h
    obtain ⟨m, hm, rfl⟩ := Option.map_eq_some_iff.mp hn
    obtain ⟨k, hk, hkm⟩ := Option.bind_eq_some_iff.mp hm
    cases hkm
    exact ⟨hrange, digits, k, hk, Or.inl ⟨rfl, rfl⟩⟩
  · rename_i digits
    obtain ⟨hn, hrange⟩ := eq_some_of_checked h
    obtain ⟨k, hk, rfl⟩ := Option.map_eq_some_iff.mp hn
    exact ⟨hrange, digits, k, hk, Or.inr (Or.inl ⟨rfl, rfl⟩)⟩
  · obtain ⟨hn, hrange⟩ := eq_some_of_checked h
    obtain ⟨k, hk, rfl⟩ := Option.map_eq_some_iff.mp hn
    exact ⟨hrange, cs, k, hk, Or.inr (Or.inr ⟨rfl, rfl⟩)⟩

/-- A numeral of digits only. -/
def wholeNumeral (negative : Bool) (digits : List Char) : Numeral := ⟨negative, digits, [], 0⟩

/-- The whole number that it stands for. -/
def wholeValue (negative : Bool) (digits : List Char) : Int :=
  if negative = true then -((wholeNumeral negative digits).mantissa : Int)
  else (wholeNumeral negative digits).mantissa

theorem isDigit_of_readDigits? {cs : List Char} {n : Nat} (h : Text.readDigits? cs = some n) :
    cs ≠ [] ∧ (∀ c ∈ cs, c.isDigit = true) ∧ Nat.ofDigitChars 10 cs 0 = n := by
  unfold Text.readDigits? at h
  split at h
  · rename_i hdigits
    exact ⟨hdigits.1, List.all_eq_true.mp hdigits.2, Option.some.inj h⟩
  · cases h

theorem readUnsigned?_of_readDigits? {cs : List Char} {n : Nat}
    (h : Text.readDigits? cs = some n) (negative : Bool) :
    readUnsigned? negative cs = some (wholeNumeral negative cs) := by
  obtain ⟨hne, hdigit, -⟩ := isDigit_of_readDigits? h
  have htake : cs.takeWhile Char.isDigit = cs := List.takeWhile_eq_self_iff.mpr hdigit
  have hdrop : cs.dropWhile Char.isDigit = [] := List.dropWhile_eq_nil_iff.mpr hdigit
  unfold readUnsigned?
  rw [htake, hdrop]
  simp [hne, readTail?, wholeNumeral]

/-- A whole number in text is a numeral of the same sign and the same digits. -/
theorem readNumeral?_of_readInt? {cs : List Char} {n : Int} (h : Text.readInt? cs = some n) :
    ∃ negative digits, readNumeral? cs = some (wholeNumeral negative digits) ∧
      n = wholeValue negative digits := by
  obtain ⟨-, digits, m, hdigits, hcs⟩ := exists_of_readInt? h
  obtain ⟨hne, hdigit, hvalue⟩ := isDigit_of_readDigits? hdigits
  have hmantissa : ∀ negative, (wholeNumeral negative digits).mantissa = m := by
    intro negative
    unfold Numeral.mantissa wholeNumeral
    rw [List.append_nil, hvalue]
  rcases hcs with ⟨rfl, rfl⟩ | ⟨rfl, rfl⟩ | ⟨rfl, rfl⟩
  · refine ⟨true, digits, readUnsigned?_of_readDigits? hdigits true, ?_⟩
    rw [wholeValue, hmantissa, if_pos rfl]
  · refine ⟨false, digits, readUnsigned?_of_readDigits? hdigits false, ?_⟩
    rw [wholeValue, hmantissa, if_neg Bool.false_ne_true]
  · refine ⟨false, cs, ?_, by rw [wholeValue, hmantissa, if_neg Bool.false_ne_true]⟩
    unfold readNumeral?
    split
    · exact absurd rfl (Text.ne_sign_of_isDigit (hdigit _ List.mem_cons_self)).1
    · exact absurd rfl (Text.ne_sign_of_isDigit (hdigit _ List.mem_cons_self)).2
    · exact readUnsigned?_of_readDigits? hdigits false

/-! ## The size -/

theorem isFinite_wholeNumeral {negative : Bool} {digits : List Char}
    (h : (wholeNumeral negative digits).mantissa ≤ largestAt 0) :
    isFinite (wholeNumeral negative digits).toFloat = true := by
  -- The same number is written without zeros in front of it.
  have hfloat : (wholeNumeral negative digits).toFloat =
      (unitNumeral negative 0 (wholeNumeral negative digits).mantissa).toFloat := by
    unfold Numeral.toFloat
    rw [mantissa_unitNumeral, power_unitNumeral]
    rfl
  rw [hfloat]
  exact isFinite_unitNumeral negative (by rwa [Nat.pow_zero, Nat.mul_one])

theorem inInt64_of_readInt? {text : String} {n : Int} (h : Kind.readInt? text = some n) :
    Text.inInt64 n = true :=
  (exists_of_readInt? h).1

/-- A whole number in text is a number. -/
theorem isSome_readFloat?_of_readInt? {text : String} (h : (Kind.readInt? text).isSome = true) :
    (readFloat? text).isSome = true := by
  obtain ⟨n, hn⟩ := Option.isSome_iff_exists.mp h
  have hrange := inInt64_of_readInt? hn
  obtain ⟨negative, digits, hread, hvalue⟩ := readNumeral?_of_readInt? hn
  have hsize : (wholeNumeral negative digits).mantissa ≤ largestAt 0 := by
    have hroom : 2 ^ 63 ≤ largestAt 0 := two_pow_le_largestAt (by decide)
    have hbounds := Text.inInt64_iff.mp hrange
    unfold Text.minInt64 Text.maxInt64 at hbounds
    unfold wholeValue at hvalue
    split at hvalue <;> omega
  unfold readFloat?
  rw [hread]
  simp only [isFinite_wholeNumeral hsize, if_true, Option.isSome_some]

end Verdict.Decimal
