-- Numbers in JSON text. The text that is written for a number is one word, and
-- a whole number is read back from that word.
import Mathlib.Tactic.Tauto
import Verdict.Proofs.Json.Tokens

namespace Verdict.Json

/-! ## Forms and values -/

/-- A number as its text writes it. -/
def numberText (cs : List Char) : NumberText :=
  (NumberText.ofChars? cs).getD ⟨false, [], none, none⟩

/-- The digits of a number are the form of that number. -/
theorem unsigned?_natDigits (negative : Bool) (n : Nat) :
    NumberText.unsigned? negative (Text.natDigits n) =
      some ⟨negative, Text.natDigits n, none, none⟩ := by
  have hzero : ¬ (Text.natDigits n = [] ∨
      ((Text.natDigits n).head? = some '0' ∧ Text.natDigits n ≠ ['0'])) := by
    rintro (h | ⟨hhead, hne⟩)
    · exact Text.natDigits_ne_nil n h
    · rw [Text.eq_zero_of_head?_natDigits hhead] at hne
      exact hne rfl
  unfold NumberText.unsigned?
  rw [Text.takeWhile_natDigits, Text.dropWhile_natDigits]
  simp only [if_neg hzero]
  rfl

/-- No digit is a minus sign, so nothing is taken off the digits of a number. -/
theorem ofChars?_natDigits (n : Nat) :
    NumberText.ofChars? (Text.natDigits n) = some ⟨false, Text.natDigits n, none, none⟩ := by
  rw [← unsigned?_natDigits]
  unfold NumberText.ofChars?
  split
  · rename_i rest heq
    have hminus : ('-').isDigit = true := Text.isDigit_of_mem_natDigits (n := n) (by simp [heq])
    exact absurd hminus (by decide)
  · rfl

/-- The number of a written whole number. -/
def intNumber : Int → NumberText
  | .ofNat n => ⟨false, Text.natDigits n, none, none⟩
  | .negSucc n => ⟨true, Text.natDigits (n + 1), none, none⟩

theorem ofChars?_intDigits (n : Int) :
    NumberText.ofChars? (Text.intDigits n) = some (intNumber n) := by
  cases n with
  | ofNat n => exact ofChars?_natDigits n
  | negSucc n => exact unsigned?_natDigits true (n + 1)

theorem value?_intNumber {n : Int} (hlow : Text.minInt64 ≤ n) (hhigh : n ≤ Text.maxIndex) :
    (intNumber n).value? = some (.int n) := by
  cases n with
  | ofNat n =>
    have h : n ≤ Text.maxIndex := Int.ofNat_le.mp hhigh
    unfold NumberText.value? intNumber
    simp only [Text.ofDigitChars_natDigits]
    simp [h]
  | negSucc n =>
    have hneg : -((n + 1 : Nat) : Int) = Int.negSucc n := rfl
    unfold NumberText.value? intNumber
    simp only [Text.ofDigitChars_natDigits]
    rw [hneg]
    simp [hlow]

/-- A whole number that is read is one of the numbers that are read back. -/
theorem range_of_value? {n : NumberText} {m : Int} (h : n.value? = some (.int m)) :
    Text.minInt64 ≤ m ∧ m ≤ Text.maxIndex := by
  unfold NumberText.value? at h
  simp only at h
  split at h
  · rename_i hcase
    simp only [Bool.and_eq_true, decide_eq_true_eq] at hcase
    cases h
    unfold Text.minInt64
    omega
  · split at h
    · rename_i hcase
      simp only [Bool.and_eq_true, decide_eq_true_eq] at hcase
      cases h
      unfold Text.maxIndex
      omega
    · rcases hf : n.float? with _ | x
      · simp [hf] at h
      · simp [hf] at h

/-- A number is read as a whole number or as one with a point. -/
theorem isNumber_of_value? {n : NumberText} {j : Json} (h : n.value? = some j) :
    (∃ m, j = .int m) ∨ ∃ x, j = .float x := by
  unfold NumberText.value? at h
  simp only at h
  split at h
  · cases h
    exact Or.inl ⟨_, rfl⟩
  · split at h
    · cases h
      exact Or.inl ⟨_, rfl⟩
    · obtain ⟨x, -, rfl⟩ := Option.map_eq_some_iff.mp h
      exact Or.inr ⟨x, rfl⟩

/-! ## Words -/

/-- No name is a number, so a word is a number if it has the form of one. -/
theorem word?_eq_number {cs : List Char} {n : NumberText} :
    word? cs = some (.number n) ↔ NumberText.ofChars? cs = some n := by
  have hnames : ∀ name ∈ [['n', 'u', 'l', 'l'], ['t', 'r', 'u', 'e'], ['f', 'a', 'l', 's', 'e']],
      NumberText.ofChars? name = none := by decide
  unfold word?
  split
  · rename_i h
    rw [h, hnames _ (by decide)]
    simp
  · split
    · rename_i h
      rw [h, hnames _ (by decide)]
      simp
    · split
      · rename_i h
        rw [h, hnames _ (by decide)]
        simp
      · simp

theorem reads_number {cs : List Char} {n : NumberText} (hcs : ∀ c ∈ cs, isWordPart c = true)
    (h : NumberText.ofChars? cs = some n) : Reads cs [.number n] := by
  rcases cs with _ | ⟨c, cs⟩
  · cases h
  · exact reads_word (hcs c List.mem_cons_self) (fun d hd => hcs d (List.mem_cons_of_mem c hd))
      (word?_eq_number.mpr h)

theorem isWordPart_of_isDigit {c : Char} (h : c.isDigit = true) : isWordPart c = true := by
  unfold isWordPart Char.isAlphanum
  rw [h]
  simp

theorem isWordPart_natDigits {n : Nat} {c : Char} (h : c ∈ Text.natDigits n) :
    isWordPart c = true := isWordPart_of_isDigit (Text.isDigit_of_mem_natDigits h)

theorem isWordPart_intDigits {n : Int} {c : Char} (h : c ∈ Text.intDigits n) :
    isWordPart c = true := by
  cases n with
  | ofNat n => exact isWordPart_natDigits h
  | negSucc n =>
    rcases List.mem_cons.mp h with rfl | h
    · rfl
    · exact isWordPart_natDigits h

theorem isWordPart_plain {d : Decimal.Dec} {c : Char} (h : c ∈ Decimal.plain true d) :
    isWordPart c = true := by
  unfold Decimal.plain at h
  simp only [if_true] at h
  split at h
  · simp only [List.mem_append, List.mem_replicate, List.mem_cons, List.not_mem_nil,
      or_false] at h
    rcases h with (h | ⟨-, rfl⟩) | rfl | rfl
    · exact isWordPart_natDigits h
    all_goals rfl
  · split at h
    · rcases List.mem_append.mp h with h | h
      · exact isWordPart_natDigits (List.mem_of_mem_take h)
      · rcases List.mem_cons.mp h with rfl | h
        · rfl
        · exact isWordPart_natDigits (List.mem_of_mem_drop h)
    · simp only [List.mem_append, List.mem_replicate, List.mem_cons] at h
      rcases h with rfl | rfl | ⟨-, rfl⟩ | h
      all_goals first | rfl | exact isWordPart_natDigits h

theorem isWordPart_scientific {d : Decimal.Dec} {c : Char} (h : c ∈ Decimal.scientific d) :
    isWordPart c = true := by
  unfold Decimal.scientific at h
  simp only [List.mem_append, List.mem_cons] at h
  rcases h with h | rfl | rfl | h
  · split at h
    · rename_i first second rest heq
      have hdigit : c = '.' ∨ c ∈ Text.natDigits d.digits := by
        rw [heq]
        simp only [List.mem_cons] at h ⊢
        tauto
      rcases hdigit with rfl | hdigit
      · rfl
      · exact isWordPart_natDigits hdigit
    · exact isWordPart_natDigits h
  · rfl
  · split <;> rfl
  · exact isWordPart_natDigits h

theorem isWordPart_floatText {x : Float} {c : Char} (h : c ∈ floatText x) :
    isWordPart c = true := by
  have hsize : ∀ size : List Char, (∀ d ∈ size, isWordPart d = true) →
      c ∈ Decimal.signed x size → isWordPart c = true := by
    intro size hsize hc
    unfold Decimal.signed at hc
    split at hc
    · rcases List.mem_cons.mp hc with rfl | hc
      · rfl
      · exact hsize c hc
    · exact hsize c hc
  unfold floatText at h
  refine hsize _ (fun d hd => ?_) h
  split at hd
  · exact List.all_eq_true.mp (show ['0', '.', '0'].all isWordPart = true from rfl) d hd
  · simp only at hd
    split at hd
    · exact isWordPart_plain hd
    · exact isWordPart_scientific hd

end Verdict.Json
