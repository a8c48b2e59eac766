-- The characters that part words: the comma and the blanks. They have no small
-- letter, no character has one of them for its small letter, and no sigma looks
-- beyond them. So the small letters of a list can be taken before the list is
-- split and trimmed, or after.
import Mathlib.Data.List.DropRight
import Verdict.Proofs.Record
import Verdict.Proofs.Text.LowerCase

namespace Verdict.Text

/-! ## Classes that have nothing in common -/

/-- No range of one class meets a range of the other. -/
def Ranges.Apart (r s : Ranges) : Prop := ∀ a ∈ r, ∀ b ∈ s, a.2 < b.1 ∨ b.2 < a.1

instance (r s : Ranges) : Decidable (r.Apart s) :=
  inferInstanceAs (Decidable (∀ a ∈ r, ∀ b ∈ s, a.2 < b.1 ∨ b.2 < a.1))

theorem Ranges.Apart.contains_eq_false {r s : Ranges} (h : r.Apart s) {c : Char}
    (hc : r.contains c = true) : s.contains c = false := by
  obtain ⟨a, ha, hlow, hhigh⟩ := Ranges.contains_iff.mp hc
  rw [← Bool.not_eq_true, Ranges.contains_iff]
  rintro ⟨b, hb, hlow', hhigh'⟩
  have hab := h a ha b hb
  omega

/-! ## Gaps -/

/-- The comma and the blanks. -/
def gapRanges : Ranges := (0x2C, 0x2C) :: blankRanges

/-- The character parts words. -/
def isGap (c : Char) : Bool := gapRanges.contains c

theorem isGap_iff {c : Char} : isGap c = true ↔ c = ',' ∨ isBlank c = true := by
  have hcomma : (0x2C ≤ c.toNat ∧ c.toNat ≤ 0x2C) ↔ c = ',' := by
    rw [← Char.toNat_inj]
    show _ ↔ c.toNat = 0x2C
    omega
  unfold isGap gapRanges isBlank
  rw [Ranges.contains_iff, Ranges.contains_iff, List.exists_mem_cons_iff, hcomma]

theorem isGap_of_isBlank {c : Char} (h : isBlank c = true) : isGap c = true :=
  isGap_iff.mpr (Or.inr h)

theorem isGap_eq_false {c : Char} (h : isGap c = false) : c ≠ ',' ∧ isBlank c = false := by
  rw [← Bool.not_eq_true, isGap_iff, not_or, Bool.not_eq_true] at h
  exact h

theorem ne_sigma_of_isGap {c : Char} (h : isGap c = true) : c ≠ 'Σ' := by
  rintro rfl
  exact absurd h (by decide)

/-! ## Small letters of one character -/

namespace CaseRun

/-- The characters of a run. -/
def range (r : CaseRun) : Nat × Nat := (r.first, r.last)

/-- The characters that the small letters of a run lie between. -/
def image (r : CaseRun) : Nat × Nat := ((r.first + r.shift).toNat, (r.last + r.shift).toNat)

theorem of_covers {r : CaseRun} {n : Nat} (h : r.covers n = true) :
    r.first ≤ n ∧ n ≤ r.last := by
  unfold covers at h
  simp only [Bool.and_eq_true, decide_eq_true_eq] at h
  exact h.1

end CaseRun

theorem lowerChar_of_isGap {c : Char} (h : isGap c = true) : lowerChar c = [c] := by
  have hapart : gapRanges.Apart (caseRuns.map CaseRun.range) := by decide +kernel
  have hnone : caseRuns.find? (·.covers c.toNat) = none := by
    refine List.find?_eq_none.mpr fun r hr hcovers => ?_
    have hcontains : Ranges.contains (caseRuns.map CaseRun.range) c = true :=
      Ranges.contains_iff.mpr ⟨r.range, List.mem_map_of_mem hr, CaseRun.of_covers hcovers⟩
    rw [hapart.contains_eq_false h] at hcontains
    cases hcontains
  have hdot : c ≠ '\u0130' := by
    rintro rfl
    exact absurd h (by decide)
  unfold lowerChar
  rw [if_neg hdot, hnone]

/-- The small letters of a character that is no gap are none either. -/
theorem isGap_of_mem_lowerChar {c d : Char} (h : isGap c = false) (hd : d ∈ lowerChar c) :
    isGap d = false := by
  have hapart : Ranges.Apart (caseRuns.map CaseRun.image) gapRanges := by decide +kernel
  unfold lowerChar at hd
  split at hd
  · rcases List.mem_cons.mp hd with rfl | hd
    · decide
    · cases List.mem_singleton.mp hd
      decide
  split at hd
  · rename_i r hr
    have hmem := List.mem_of_find?_eq_some hr
    have hcovers := List.find?_some (p := fun s : CaseRun => s.covers c.toNat) hr
    obtain ⟨hlow, hhigh⟩ := CaseRun.of_covers hcovers
    cases List.mem_singleton.mp hd
    by_cases hvalid : (c.toNat + r.shift).toNat.isValidChar
    · rw [Char.ofNat, dif_pos hvalid]
      refine hapart.contains_eq_false
        (Ranges.contains_iff.mpr ⟨r.image, List.mem_map_of_mem hmem, ?_⟩)
      show r.image.1 ≤ (c.toNat + r.shift).toNat ∧ (c.toNat + r.shift).toNat ≤ r.image.2
      unfold CaseRun.image
      omega
    · rw [Char.ofNat, dif_neg hvalid]
      decide
  · cases List.mem_singleton.mp hd
    exact h

theorem lowerChar_ne_nil (c : Char) : lowerChar c ≠ [] := by
  unfold lowerChar
  split
  · exact List.cons_ne_nil _ _
  · split <;> exact List.cons_ne_nil _ _

/-! ## Sigmas -/

/-- Nothing beyond a gap is met. -/
theorem meetsCased_append_gap {c : Char} (h : isGap c = true) (cs after : List Char) :
    meetsCased (cs ++ c :: after) = meetsCased cs := by
  have hignorable : gapRanges.Apart caseIgnorableRanges := by decide +kernel
  have hcased : gapRanges.Apart casedRanges := by decide +kernel
  unfold meetsCased
  induction cs with
  | nil =>
    rw [List.nil_append, List.dropWhile_cons_of_neg]
    · exact hcased.contains_eq_false h
    · rw [hignorable.contains_eq_false h]
      exact Bool.false_ne_true
  | cons d cs ih =>
    rw [List.cons_append]
    by_cases hd : caseIgnorableRanges.contains d = true
    · rw [List.dropWhile_cons_of_pos hd, List.dropWhile_cons_of_pos hd, ih]
    · rw [List.dropWhile_cons_of_neg hd, List.dropWhile_cons_of_neg hd]

theorem sigmasKept_before_gap {c : Char} (h : isGap c = true) (cs after : List Char) :
    SigmasKept [] cs (c :: after) := by
  intro x y _
  unfold endsWord
  rw [List.append_nil, meetsCased_append_gap h]

theorem sigmasKept_behind_gap {c : Char} (h : isGap c = true) (before cs : List Char) :
    SigmasKept (c :: before) cs [] := by
  intro x y _
  unfold endsWord
  rw [List.append_nil, meetsCased_append_gap h]

/-! ## Small letters of a text -/

/-- A gap stays where it is, and the texts on its two sides have the small letters that they have
by themselves. -/
theorem lower_gap {c : Char} (h : isGap c = true) (as bs : List Char) :
    lower (as ++ c :: bs) = lower as ++ c :: lower bs := by
  rw [lower_append, lowerBetween_eq_lower_iff.mpr (sigmasKept_before_gap h as bs),
    lowerBetween_cons_of_ne (ne_sigma_of_isGap h), lowerChar_of_isGap h,
    lowerBetween_eq_lower_iff.mpr (sigmasKept_behind_gap h as.reverse bs)]
  rfl

/-- A character has small letters, and they are blanks or commas only if it is one. -/
theorem exists_lowerBetween_cons (c : Char) (before cs after : List Char) :
    ∃ small, small ≠ [] ∧ (∀ d ∈ small, isBlank d = isBlank c ∧ (d = ',' → c = ',')) ∧
      lowerBetween before (c :: cs) after = small ++ lowerBetween (c :: before) cs after := by
  by_cases hgap : isGap c = true
  · refine ⟨[c], List.cons_ne_nil _ _, ?_, ?_⟩
    · intro d hd
      cases List.mem_singleton.mp hd
      exact ⟨rfl, id⟩
    · rw [lowerBetween_cons_of_ne (ne_sigma_of_isGap hgap), lowerChar_of_isGap hgap]
  · rw [Bool.not_eq_true] at hgap
    have hsmall : ∀ d, isGap d = false → isBlank d = isBlank c ∧ (d = ',' → c = ',') := by
      intro d hd
      obtain ⟨hcomma, hblank⟩ := isGap_eq_false hd
      exact ⟨hblank.trans (isGap_eq_false hgap).2.symm, fun h => absurd h hcomma⟩
    by_cases hc : c = 'Σ'
    · subst hc
      refine ⟨_, List.cons_ne_nil _ [], fun d hd => hsmall d ?_, lowerBetween_sigma before cs after⟩
      cases List.mem_singleton.mp hd
      split <;> decide
    · exact ⟨lowerChar c, lowerChar_ne_nil c, fun d hd => hsmall d (isGap_of_mem_lowerChar hgap hd),
        lowerBetween_cons_of_ne hc before cs after⟩

/-! ## Trimmed texts -/

theorem trimStart_lower (cs : List Char) : trimStart (lower cs) = lower (trimStart cs) := by
  induction cs with
  | nil => rfl
  | cons c cs ih =>
    rcases hblank : isBlank c with _ | _
    · obtain ⟨small, hne, hsmall, heq⟩ := exists_lowerBetween_cons c [] cs []
      rw [← lower_eq_lowerBetween] at heq
      rw [trimStart_cons_of_not_blank hblank, heq]
      rcases small with _ | ⟨d, small⟩
      · exact absurd rfl hne
      · exact trimStart_cons_of_not_blank ((hsmall d List.mem_cons_self).1.trans hblank)
    · have hlower : lower (c :: cs) = c :: lower cs := lower_gap (isGap_of_isBlank hblank) [] cs
      rw [hlower, trimStart_cons_of_blank hblank, trimStart_cons_of_blank hblank, ih]

theorem trimEnd_concat (cs : List Char) (c : Char) :
    trimEnd (cs ++ [c]) = if isBlank c = true then trimEnd cs else cs ++ [c] :=
  List.rdropWhile_concat isBlank cs c

/-- By induction from the end of the text. -/
theorem trimEnd_lower (cs : List Char) : trimEnd (lower cs) = lower (trimEnd cs) := by
  induction cs using List.reverseRecOn with
  | nil => rfl
  | append_singleton cs c ih =>
    rw [trimEnd_concat]
    rcases hblank : isBlank c with _ | _
    · obtain ⟨small, hne, hsmall, heq⟩ := exists_lowerBetween_cons c cs.reverse [] []
      rw [if_neg Bool.false_ne_true, lower_append, heq, lowerBetween, List.append_nil]
      obtain ⟨front, d, rfl⟩ := (List.eq_nil_or_concat small).resolve_left hne
      have hd : isBlank d = false := (hsmall d (by simp)).1.trans hblank
      rw [List.concat_eq_append, ← List.append_assoc, trimEnd_concat, hd,
        if_neg Bool.false_ne_true]
    · rw [if_pos rfl, lower_gap (isGap_of_isBlank hblank), lower_nil, trimEnd_concat,
        if_pos hblank, ih]

theorem trim_lower (cs : List Char) : trim (lower cs) = lower (trim cs) := by
  unfold trim
  rw [trimStart_lower, trimEnd_lower]

/-! ## Split texts -/

theorem comma_not_mem_lowerBetween {cs : List Char} (h : ',' ∉ cs) (before after : List Char) :
    ',' ∉ lowerBetween before cs after := by
  induction cs generalizing before with
  | nil => exact List.not_mem_nil
  | cons c cs ih =>
    obtain ⟨hc, hcs⟩ := not_or.mp (mt List.mem_cons.mpr h)
    obtain ⟨small, -, hsmall, heq⟩ := exists_lowerBetween_cons c before cs after
    rw [heq, List.mem_append, not_or]
    exact ⟨fun hmem => hc ((hsmall _ hmem).2 rfl).symm, ih hcs _⟩

/-- By induction on the commas: each one parts both texts at the same place. -/
theorem split_lower (cs : List Char) : split ',' (lower cs) = (split ',' cs).map lower := by
  induction hlength : cs.length using Nat.strongRecOn generalizing cs with
  | _ n ih =>
    by_cases hmem : ',' ∈ cs
    · obtain ⟨as, bs, rfl⟩ := List.append_of_mem hmem
      rw [List.length_append, List.length_cons] at hlength
      rw [lower_gap (by decide), split_append, split_append, List.map_append,
        ih as.length (by omega) as rfl, ih bs.length (by omega) bs rfl]
    · have hlower : ',' ∉ lower cs := by
        rw [lower_eq_lowerBetween]
        exact comma_not_mem_lowerBetween hmem [] []
      rw [split_of_not_mem hmem, split_of_not_mem hlower]
      rfl

/-- The small letters of a list, split and trimmed, are those of each trimmed item. -/
theorem map_trim_split_lower (cs : List Char) :
    (split ',' (lower cs)).map trim = (split ',' cs).map fun item => lower (trim item) := by
  rw [split_lower, List.map_map]
  exact List.map_congr_left fun item _ => trim_lower item

end Verdict.Text
