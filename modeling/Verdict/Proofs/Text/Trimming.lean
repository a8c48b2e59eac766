-- Texts without blanks at their ends. Trimming gives such a text and leaves one
-- as it is, and nothing remains of blanks only.
import Mathlib.Data.List.DropRight
import Verdict.Text.Blank

namespace Verdict.Text

/-- There is no blank at the start and none at the end. -/
structure IsTrimmed (cs : List Char) : Prop where
  head : ∀ c ∈ cs.head?, isBlank c = false
  last : ∀ c ∈ cs.getLast?, isBlank c = false

theorem trimStart_of_head {cs : List Char} (h : ∀ c ∈ cs.head?, isBlank c = false) :
    trimStart cs = cs := by
  rcases cs with _ | ⟨c, cs⟩
  · rfl
  · exact trimStart_cons_of_not_blank (h c rfl)

theorem head_trimStart (cs : List Char) : ∀ c ∈ (trimStart cs).head?, isBlank c = false := by
  induction cs with
  | nil => simp
  | cons c cs ih =>
    by_cases hc : isBlank c = true
    · rw [trimStart_cons_of_blank hc]
      exact ih
    · rw [Bool.not_eq_true] at hc
      rw [trimStart_cons_of_not_blank hc]
      simp [hc]

/-- The end is the start of the reversed text. -/
theorem trimEnd_eq (cs : List Char) : trimEnd cs = (trimStart cs.reverse).reverse := rfl

theorem trimEnd_of_last {cs : List Char} (h : ∀ c ∈ cs.getLast?, isBlank c = false) :
    trimEnd cs = cs := by
  rw [trimEnd_eq, trimStart_of_head, List.reverse_reverse]
  rw [List.head?_reverse]
  exact h

theorem last_trimEnd (cs : List Char) : ∀ c ∈ (trimEnd cs).getLast?, isBlank c = false := by
  rw [trimEnd_eq, List.getLast?_reverse]
  exact head_trimStart cs.reverse

/-- What remains in front of the blanks at the end begins as the text does. -/
theorem head_trimEnd {cs : List Char} (h : ∀ c ∈ cs.head?, isBlank c = false) :
    ∀ c ∈ (trimEnd cs).head?, isBlank c = false := by
  intro c hc
  have hprefix : trimEnd cs <+: cs := List.rdropWhile_prefix isBlank cs
  obtain ⟨rest, hrest⟩ := hprefix
  apply h
  rw [← hrest, List.head?_append, hc]
  rfl

theorem isTrimmed_trim (cs : List Char) : IsTrimmed (trim cs) where
  head := head_trimEnd (head_trimStart cs)
  last := last_trimEnd (trimStart cs)

theorem IsTrimmed.trim_eq {cs : List Char} (h : IsTrimmed cs) : trim cs = cs := by
  unfold trim
  rw [trimStart_of_head h.head, trimEnd_of_last h.last]

/-- Nothing remains of blanks only, and of nothing else. -/
theorem trim_eq_nil_iff {cs : List Char} : trim cs = [] ↔ cs.all isBlank = true := by
  rw [List.all_eq_true]
  constructor
  · intro h
    have hend : ∀ c ∈ trimStart cs, isBlank c = true := List.rdropWhile_eq_nil_iff.mp h
    have hstart : trimStart cs = [] := by
      by_contra hne
      obtain ⟨c, rest, hcons⟩ := List.exists_cons_of_ne_nil hne
      have hblank := hend c (by simp [hcons])
      simp [head_trimStart cs c (by simp [hcons])] at hblank
    exact List.dropWhile_eq_nil_iff.mp hstart
  · intro h
    have hstart : trimStart cs = [] := List.dropWhile_eq_nil_iff.mpr h
    rw [trim, hstart]
    rfl

end Verdict.Text
