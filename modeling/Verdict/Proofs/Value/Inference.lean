-- The kind that a text has by its form. A text is one of a date, a duration and a
-- number at most, so the order in which the kinds are tried does not matter, but
-- that whole numbers come before numbers.
import Verdict.Proofs.Value.Kinds
import Verdict.Proofs.Value.Marks

namespace Verdict

namespace Kind

variable {text : String} {j k : Kind} {order : List Kind}

/-! ## Marks -/

/-- The character behind the number that a text begins with. -/
def mark? (text : String) : Option Char := (Text.behindNumber (Text.trim text.toList)).head?

/-- The kind that a mark stands for. -/
def ofMark : Option Char → Kind
  | none => float
  | some c => if c = '-' ∨ c = '/' then date else if Text.isBlank c = true then duration else float

/-- The kinds that are tried, in the order in which `infer` tries them. -/
def tried : List Kind := [date, duration, int, float]

/-- Whole numbers are numbers. -/
def widened : Kind → Kind
  | int => float
  | k => k

theorem ofMark_of_date (h : accepts text .date = true) : ofMark (mark? text) = .date := by
  obtain ⟨m, hm⟩ := Option.isSome_iff_exists.mp h
  unfold mark?
  rcases Calendar.head?_of_read? hm with hmark | hmark
  all_goals
    rw [hmark]
    rfl

theorem ofMark_of_duration (h : accepts text .duration = true) :
    ofMark (mark? text) = .duration := by
  obtain ⟨s, hs⟩ := Option.isSome_iff_exists.mp h
  obtain ⟨blank, hblank, hmark⟩ := Span.head?_of_read? hs
  have hne : ¬ (blank = '-' ∨ blank = '/') := by
    rintro (rfl | rfl)
    · cases hblank
    · cases hblank
  unfold mark?
  rw [hmark, ofMark, if_neg hne, if_pos hblank]

theorem ofMark_of_float (h : accepts text .float = true) : ofMark (mark? text) = .float := by
  obtain ⟨x, hx⟩ := Option.isSome_iff_exists.mp h
  have hall : ∀ mark ∈ Decimal.numeralMarks, ofMark mark = .float := by decide
  unfold Decimal.readFloat? at hx
  split at hx
  · cases hx
  · exact hall _ (Decimal.head?_of_readNumeral? ‹_›)

theorem accepts_float_of_int (h : accepts text .int = true) : accepts text .float = true :=
  Decimal.isSome_readFloat?_of_readInt? h

/-- The mark tells the kind of a text that is tried with success, but for whole numbers. -/
theorem ofMark_of_accepts (hk : k ∈ tried) (h : accepts text k = true) :
    ofMark (mark? text) = k.widened := by
  cases k with
  | date => exact ofMark_of_date h
  | duration => exact ofMark_of_duration h
  | int => exact ofMark_of_float (accepts_float_of_int h)
  | float => exact ofMark_of_float h
  | string | field => exact absurd hk (by decide)

/-! ## The order of the trials -/

/-- The first kind of an order that accepts a text, and text at last. -/
def inferBy (order : List Kind) (text : String) : Kind := (order.find? (accepts text)).getD .string

theorem infer_eq_inferBy (text : String) : infer text = inferBy tried text := by
  unfold infer inferBy tried
  simp only [List.find?_cons, List.find?_nil]
  cases accepts text .date <;> cases accepts text .duration <;> cases accepts text .int <;>
    cases accepts text .float <;> rfl

theorem inferBy_eq (hk : k ∈ order) (h : accepts text k = true)
    (hfirst : ∀ j ∈ order, accepts text j = true → j ≠ k → order.idxOf k < order.idxOf j) :
    inferBy order text = k := by
  obtain ⟨before, behind, rfl, hnew⟩ := List.eq_append_cons_of_mem hk
  have hfind : (before ++ k :: behind).find? (accepts text) = some k := by
    refine List.find?_eq_some_iff_append.mpr ⟨h, before, behind, rfl, fun j hj => ?_⟩
    by_contra haccepts
    have hlt := hfirst j (List.mem_append_left _ hj) (by simpa using haccepts)
      (ne_of_mem_of_not_mem hj hnew)
    rw [List.idxOf_append_of_notMem hnew, List.idxOf_cons_self, List.idxOf_append_of_mem hj] at hlt
    have hbound := List.idxOf_lt_length_of_mem hj
    omega
  unfold inferBy
  rw [hfind, Option.getD_some]

theorem eq_or_of_widened (h : j.widened = k.widened) :
    j = k ∨ (j = .int ∧ k = .float) ∨ (j = .float ∧ k = .int) := by
  revert h
  cases j <;> cases k <;> decide

/-- In every order the kind of a text is found that accepts it. Only whole numbers are accepted as
numbers too, and of these two the one that stands first is found. -/
theorem inferBy_of_accepts (horder : order.Perm tried) (hk : k ∈ tried)
    (h : accepts text k = true) (hint : k = .int → order.idxOf .int < order.idxOf .float)
    (hfloat : k = .float → accepts text .int = true → order.idxOf .float < order.idxOf .int) :
    inferBy order text = k := by
  refine inferBy_eq (horder.mem_iff.mpr hk) h fun j hj haccepts hne => ?_
  have hmark := ofMark_of_accepts (horder.mem_iff.mp hj) haccepts
  rw [ofMark_of_accepts hk h] at hmark
  rcases eq_or_of_widened hmark with rfl | ⟨rfl, rfl⟩ | ⟨rfl, rfl⟩
  · exact absurd rfl hne
  · exact hint rfl
  · exact hfloat rfl haccepts

theorem infer_of_accepts (hk : k ∈ tried) (h : accepts text k = true)
    (hfloat : k = .float → accepts text .int = false) : infer text = k := by
  rw [infer_eq_inferBy]
  refine inferBy_of_accepts (.refl _) hk h (fun _ => by decide) fun hk hint => ?_
  rw [hfloat hk] at hint
  cases hint

theorem inferBy_eq_string (horder : order.Perm tried) (h : ∀ k ∈ tried, accepts text k = false) :
    inferBy order text = .string := by
  have hnone : order.find? (accepts text) = none :=
    List.find?_eq_none.mpr fun k hk => by simp [h k (horder.mem_iff.mp hk)]
  unfold inferBy
  rw [hnone, Option.getD_none]

theorem infer_eq_string_iff : infer text = .string ↔ ∀ k ∈ tried, accepts text k = false := by
  constructor
  · intro hstring k hk
    rw [← Bool.not_eq_true]
    intro h
    by_cases hint : accepts text .int = true
    · rw [infer_of_accepts (by decide) hint fun h => by cases h] at hstring
      cases hstring
    · rw [infer_of_accepts hk h fun _ => by simpa using hint] at hstring
      rw [hstring] at hk
      exact absurd hk (by decide)
  · intro hnone
    rw [infer_eq_inferBy]
    exact inferBy_eq_string (.refl _) hnone

theorem infer_mem_tried (h : infer text ≠ .string) : infer text ∈ tried := by
  rw [infer_eq_inferBy] at h ⊢
  unfold inferBy at h ⊢
  rcases hfind : tried.find? (accepts text) with _ | k
  · rw [hfind] at h
    exact absurd rfl h
  · exact List.mem_of_find?_eq_some hfind

theorem infer_eq_iff (hk : k ∈ [date, duration, int]) :
    infer text = k ↔ accepts text k = true := by
  have htried : ∀ k ∈ [date, duration, int], k ∈ tried ∧ k ≠ .float := by decide
  obtain ⟨htried, hne⟩ := htried k hk
  refine ⟨?_, fun h => infer_of_accepts htried h fun hfloat => absurd hfloat hne⟩
  rintro rfl
  exact accepts_infer text

theorem infer_eq_float_iff :
    infer text = .float ↔ accepts text .float = true ∧ accepts text .int = false := by
  refine ⟨fun hinfer => ?_, fun h => infer_of_accepts (by decide) h.1 fun _ => h.2⟩
  have haccepts := accepts_infer text
  rw [hinfer] at haccepts
  refine ⟨haccepts, ?_⟩
  rw [← Bool.not_eq_true]
  intro hint
  rw [(infer_eq_iff (by decide)).mpr hint] at hinfer
  cases hinfer

/-- Whatever the order, the same kind is found, but that numbers may come before whole numbers. -/
theorem inferBy_of_perm (horder : order.Perm tried) :
    inferBy order text =
      if infer text = .int ∧ order.idxOf .float < order.idxOf .int then .float
      else infer text := by
  by_cases hstring : infer text = .string
  · rw [inferBy_eq_string horder (infer_eq_string_iff.mp hstring), hstring]
    rfl
  split
  · rename_i hfirst
    have hint := (infer_eq_iff (by decide)).mp hfirst.1
    exact inferBy_of_accepts horder (by decide) (accepts_float_of_int hint)
      (fun hkind => by cases hkind) fun _ _ => hfirst.2
  · rename_i hfirst
    refine inferBy_of_accepts horder (infer_mem_tried hstring) (accepts_infer text) ?_ ?_
    · intro hint
      have hle : order.idxOf .int ≤ order.idxOf .float := by
        rw [← Nat.not_lt]
        exact fun hlt => hfirst ⟨hint, hlt⟩
      refine lt_of_le_of_ne hle fun heq => ?_
      have hmem : Kind.int ∈ order := horder.mem_iff.mpr (by decide)
      exact absurd ((List.idxOf_inj hmem).mp heq) (by decide)
    · intro hinfer hint
      rw [(infer_eq_float_iff.mp hinfer).2] at hint
      cases hint

/-- A text is one of a date, a duration and a number at most, and a whole number is a number. So
the kind of a text is that of its reader, in whatever order the readers are tried; only a whole
number is a number of the other kind where these are tried first. -/
theorem the_order_of_the_trials_counts_for_whole_numbers_only (text : String) :
    (∀ j ∈ [date, duration, float], ∀ k ∈ [date, duration, float],
      accepts text j = true → accepts text k = true → j = k) ∧
    (accepts text .int = true → accepts text .float = true) ∧
    (infer text = .date ↔ accepts text .date = true) ∧
    (infer text = .duration ↔ accepts text .duration = true) ∧
    (infer text = .int ↔ accepts text .int = true) ∧
    (infer text = .float ↔ accepts text .float = true ∧ accepts text .int = false) ∧
    (infer text = .string ↔ ∀ k ∈ tried, accepts text k = false) ∧
    ∀ order : List Kind, order.Perm tried → inferBy order text =
      if infer text = .int ∧ order.idxOf .float < order.idxOf .int then .float
      else infer text := by
  have honce : ∀ k ∈ [date, duration, float], k ∈ tried ∧ k.widened = k := by decide
  refine ⟨fun j hj k hk haj hak => ?_, accepts_float_of_int, infer_eq_iff (by decide),
    infer_eq_iff (by decide), infer_eq_iff (by decide), infer_eq_float_iff, infer_eq_string_iff,
    fun order => inferBy_of_perm⟩
  obtain ⟨hj, hjj⟩ := honce j hj
  obtain ⟨hk, hkk⟩ := honce k hk
  rw [← hjj, ← hkk, ← ofMark_of_accepts hj haj, ← ofMark_of_accepts hk hak]

/-- Where numbers are tried first, a whole number is one of them. A year with a sign is still a
date, and not a number with an exponent. -/
theorem a_whole_number_is_a_number_where_numbers_come_first :
    let order := [float, duration, int, date]
    inferBy order " +12 " = .float ∧ infer " +12 " = .int ∧
      inferBy order "-1-2-3" = .date ∧ inferBy order "-1e-2" = .float := by
  intro order
  have horder : order.Perm tried := by decide
  obtain ⟨-, -, -, -, hint, -, -, hwhole⟩ :=
    the_order_of_the_trials_counts_for_whole_numbers_only " +12 "
  obtain ⟨-, -, hdate, -, -, -, -, hyear⟩ :=
    the_order_of_the_trials_counts_for_whole_numbers_only "-1-2-3"
  obtain ⟨-, -, -, -, -, hfloat, -, hnumber⟩ :=
    the_order_of_the_trials_counts_for_whole_numbers_only "-1e-2"
  have hint := hint.mpr (by decide +kernel)
  have hdate := hdate.mpr (by decide +kernel)
  have hfloat := hfloat.mpr (by decide +kernel)
  rw [hwhole order horder, hyear order horder, hnumber order horder, hint, hdate, hfloat]
  decide

end Kind

end Verdict
