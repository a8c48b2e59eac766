-- Whole numbers in text. A number has no zero in front, its digits are read up
-- to the first character that is none, and a written number is read back.
import Mathlib.Algebra.Group.Nat.Defs
import Mathlib.Data.List.Basic
import Mathlib.Data.List.TakeWhile
import Verdict.Text.Integer

namespace Verdict.Text

/-! ## Runs of characters -/

/-- A run ends in front of the first character that is no part of it. -/
theorem takeWhile_run {p : Char → Bool} {cs rest : List Char} (hcs : ∀ c ∈ cs, p c = true)
    (hrest : ∀ c ∈ rest.head?, p c = false) : (cs ++ rest).takeWhile p = cs := by
  rw [List.takeWhile_append_of_pos hcs]
  rcases rest with _ | ⟨r, rest⟩
  · simp
  · simp [hrest r rfl]

theorem dropWhile_run {p : Char → Bool} {cs rest : List Char} (hcs : ∀ c ∈ cs, p c = true)
    (hrest : ∀ c ∈ rest.head?, p c = false) : (cs ++ rest).dropWhile p = rest := by
  rw [List.dropWhile_append_of_pos hcs]
  rcases rest with _ | ⟨r, rest⟩
  · rfl
  · simp [hrest r rfl]

/-! ## Digits -/

theorem natDigits_of_lt_ten {n : Nat} (h : n < 10) : natDigits n = [Nat.digitChar n] :=
  Nat.toDigits_of_lt_base h

theorem natDigits_of_ten_le {n : Nat} (h : 10 ≤ n) :
    natDigits n = natDigits (n / 10) ++ [Nat.digitChar (n % 10)] :=
  Nat.toDigits_of_base_le (by decide) h

/-- Only zero begins with a zero. -/
theorem eq_zero_of_head?_natDigits {n : Nat} (h : (natDigits n).head? = some '0') : n = 0 := by
  induction n using Nat.strongRecOn with
  | _ n ih =>
    by_cases hlt : n < 10
    · rw [natDigits_of_lt_ten hlt] at h
      exact Nat.digitChar_eq_zero.mp (Option.some.inj h)
    · rw [natDigits_of_ten_le (by omega), List.head?_append_of_ne_nil _ (natDigits_ne_nil _)] at h
      have hquotient := ih (n / 10) (by omega) h
      omega

theorem takeWhile_natDigits (n : Nat) : (natDigits n).takeWhile Char.isDigit = natDigits n :=
  List.takeWhile_eq_self_iff.mpr fun _ hc => isDigit_of_mem_natDigits hc

theorem dropWhile_natDigits (n : Nat) : (natDigits n).dropWhile Char.isDigit = [] :=
  List.dropWhile_eq_nil_iff.mpr fun _ hc => isDigit_of_mem_natDigits hc

/-- The digits of a number begin with a digit. -/
theorem exists_natDigits_eq_cons (n : Nat) :
    ∃ c cs, natDigits n = c :: cs ∧ c.isDigit = true := by
  rcases h : natDigits n with _ | ⟨c, cs⟩
  · exact absurd h (natDigits_ne_nil n)
  · exact ⟨c, cs, rfl, isDigit_of_mem_natDigits (n := n) (by simp [h])⟩

theorem ofDigitChars_natDigits (n : Nat) : Nat.ofDigitChars 10 (natDigits n) 0 = n :=
  Nat.ofDigitChars_ten_toDigits

/-! ## Zeros in front -/

theorem isDigit_of_mem_padded {width n : Nat} {c : Char} (h : c ∈ padded width n) :
    c.isDigit = true := by
  rcases List.mem_append.mp h with h | h
  · rw [(List.mem_replicate.mp h).2]
    rfl
  · exact isDigit_of_mem_natDigits h

theorem le_length_padded (width n : Nat) : width ≤ (padded width n).length := by
  unfold padded
  rw [List.length_append, List.length_replicate]
  omega

theorem ofDigitChars_padded (width n : Nat) : Nat.ofDigitChars 10 (padded width n) 0 = n := by
  unfold padded
  rw [Nat.ofDigitChars_append, Nat.ofDigitChars_replicate_zero, Nat.mul_zero,
    ofDigitChars_natDigits]

/-- Only a number that is too large goes beyond the width. -/
theorem length_padded {width n : Nat} (hwidth : 0 < width) (h : n < 10 ^ width) :
    (padded width n).length = width := by
  have hlength : (natDigits n).length ≤ width :=
    (Nat.length_toDigits_le_iff (by decide) hwidth).mpr h
  unfold padded
  rw [List.length_append, List.length_replicate]
  omega

theorem readDigits?_padded {width n : Nat} (hwidth : 0 < width) :
    readDigits? (padded width n) = some n := by
  have hne : padded width n ≠ [] := by
    have hlength := le_length_padded width n
    intro hnil
    rw [hnil, List.length_nil] at hlength
    omega
  have hall : (padded width n).all Char.isDigit = true :=
    List.all_eq_true.mpr fun _ hc => isDigit_of_mem_padded hc
  rw [readDigits?, if_pos ⟨hne, hall⟩, ofDigitChars_padded]

/-! ## Size -/

theorem ofDigitChars_lt {cs : List Char} (h : ∀ c ∈ cs, c.isDigit = true) (n : Nat) :
    Nat.ofDigitChars 10 cs n < (n + 1) * 10 ^ cs.length := by
  induction cs generalizing n with
  | nil => simp
  | cons c cs ih =>
    obtain ⟨hc, hcs⟩ := List.forall_mem_cons.mp h
    have hdigit : c.toNat - '0'.toNat ≤ 9 := by
      simp only [Char.isDigit, ge_iff_le, Bool.and_eq_true, decide_eq_true_eq] at hc
      have hhigh : c.toNat ≤ 57 := hc.2
      have hzero : '0'.toNat = 48 := rfl
      omega
    rw [Nat.ofDigitChars_cons, List.length_cons, Nat.pow_succ']
    calc _ < (10 * n + (c.toNat - '0'.toNat) + 1) * 10 ^ cs.length := ih hcs _
      _ ≤ ((n + 1) * 10) * 10 ^ cs.length := Nat.mul_le_mul_right _ (by omega)
      _ = (n + 1) * (10 * 10 ^ cs.length) := Nat.mul_assoc _ _ _

/-- A number has no more places than there are digits to read. -/
theorem readDigits?_lt {cs : List Char} {n : Nat} (h : readDigits? cs = some n) :
    n < 10 ^ cs.length := by
  unfold readDigits? at h
  split at h
  · rename_i hcs
    cases h
    have hlt := ofDigitChars_lt (List.all_eq_true.mp hcs.2) 0
    rwa [Nat.zero_add, Nat.one_mul] at hlt
  · cases h

/-! ## Whole numbers with a sign -/

theorem inInt64_iff {n : Int} :
    inInt64 n = true ↔ minInt64 ≤ n ∧ n ≤ maxInt64 := by
  unfold inInt64
  rw [Bool.and_eq_true, decide_eq_true_eq, decide_eq_true_eq]

theorem ne_sign_of_isDigit {c : Char} (h : c.isDigit = true) : c ≠ '-' ∧ c ≠ '+' := by
  constructor
  all_goals
    rintro rfl
    cases h

theorem readInt?_minus (cs : List Char) : readInt? ('-' :: cs) =
    (readDigits? cs).bind fun n =>
      if inInt64 (-(n : Int)) = true then some (-(n : Int)) else none := by
  unfold readInt?
  simp only [Option.pure_def, Option.bind_eq_bind]
  cases readDigits? cs <;> rfl

/-- No digit is a sign, so nothing is taken off the digits of a number. -/
theorem readInt?_of_digits {cs : List Char} (h : ∀ c ∈ cs, c.isDigit = true) :
    readInt? cs = (readDigits? cs).bind fun n =>
      if inInt64 (n : Int) = true then some (n : Int) else none := by
  unfold readInt?
  split
  · exact absurd rfl (ne_sign_of_isDigit (h _ List.mem_cons_self)).1
  · exact absurd rfl (ne_sign_of_isDigit (h _ List.mem_cons_self)).2
  · cases readDigits? cs <;> rfl

/-- A written number is read back if values can hold it. -/
theorem readInt?_intDigits {n : Int} (h : inInt64 n = true) : readInt? (intDigits n) = some n := by
  cases n with
  | ofNat n =>
    rw [intDigits, readInt?_of_digits fun _ hc => isDigit_of_mem_natDigits hc,
      readDigits?_natDigits, Option.bind_some]
    exact if_pos h
  | negSucc n =>
    rw [intDigits, readInt?_minus, readDigits?_natDigits, Option.bind_some]
    exact if_pos h

end Verdict.Text
