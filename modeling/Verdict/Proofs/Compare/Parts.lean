-- The comparators that look for one text in another. A part that is there
-- character for character is found without regard to case, unless the small
-- letter of one of its sigmas changes where the part is cut out of the text.
import Verdict.Compare
import Verdict.Proofs.Text.LowerCase

namespace Verdict

open Text

theorem folded_append (a b : String) : folded (a ++ b) = lower (a.toList ++ b.toList) := by
  rw [folded, String.toList_append]

theorem testTexts_contains_iff {a b : String} :
    testTexts .contains a b = true ↔ folded b <:+: folded a := isPart_iff

theorem testTexts_startsWith_iff {a b : String} :
    testTexts .startsWith a b = true ↔ folded b <+: folded a := List.isPrefixOf_iff_prefix

theorem testTexts_endsWith_iff {a b : String} :
    testTexts .endsWith a b = true ↔ folded b <:+ folded a := List.isSuffixOf_iff_suffix

namespace TypedValue

/-! ## Two texts -/

/-- A comparator that asks for no ordering looks at the texts. -/
theorem compare_texts {c : Comparator} (hrel : c.isRelational = false) (hcopy : c ≠ .copy)
    (a b : String) :
    (present a .string).compare c (present b .string) = .ok (testTexts c a b) := by
  unfold TypedValue.compare
  rw [if_neg hcopy]
  show comparePresent c .string a .string b = _
  unfold comparePresent
  rw [if_neg (Bool.eq_false_iff.mp hrel)]
  rfl

/-- Two texts can always be compared. -/
theorem exists_compare_texts (c : Comparator) (a b : String) :
    ∃ t, (present a .string).compare c (present b .string) = .ok t := by
  by_cases hcopy : c = .copy
  · exact ⟨true, if_pos hcopy⟩
  · rcases hrel : c.isRelational with _ | _
    · exact ⟨_, compare_texts hrel hcopy a b⟩
    · refine ⟨(c.testOrdering? (orderTexts a b)).getD false, ?_⟩
      unfold TypedValue.compare
      rw [if_neg hcopy]
      show comparePresent c .string a .string b = _
      unfold comparePresent
      rw [if_pos hrel]
      rfl

/-- Of a text in three parts, the first is found in front and the last at the end exactly if the
same sigmas end a word in the part and in the text. The part in the middle is found if this holds
of it. So all three are found in a text without a capital sigma, and no comparison fails. -/
theorem a_part_is_found_unless_a_sigma_changes (p m s : String) :
    let whole := present (p ++ m ++ s) .string
    (∀ c part, ∃ t, whole.compare c (present part .string) = .ok t) ∧
      (whole.compare .startsWith (present p .string) = .ok true ↔
        SigmasKept [] p.toList (m ++ s).toList) ∧
      (whole.compare .endsWith (present s .string) = .ok true ↔
        SigmasKept (p ++ m).toList.reverse s.toList []) ∧
      (SigmasKept p.toList.reverse m.toList s.toList →
        whole.compare .contains (present m .string) = .ok true) ∧
      ('Σ' ∉ (p ++ m ++ s).toList →
        whole.compare .startsWith (present p .string) = .ok true ∧
          whole.compare .contains (present m .string) = .ok true ∧
          whole.compare .endsWith (present s .string) = .ok true) := by
  intro whole
  have hstarts : whole.compare .startsWith (present p .string) = .ok true ↔
      SigmasKept [] p.toList (m ++ s).toList := by
    rw [compare_texts rfl (by decide), Except.ok.injEq, testTexts_startsWith_iff,
      String.append_assoc, folded_append, ← lower_prefix_iff]
    rfl
  have hends : whole.compare .endsWith (present s .string) = .ok true ↔
      SigmasKept (p ++ m).toList.reverse s.toList [] := by
    rw [compare_texts rfl (by decide), Except.ok.injEq, testTexts_endsWith_iff, folded_append,
      ← lower_suffix_iff]
    rfl
  have hcontains : SigmasKept p.toList.reverse m.toList s.toList →
      whole.compare .contains (present m .string) = .ok true := by
    intro h
    rw [compare_texts rfl (by decide), Except.ok.injEq, testTexts_contains_iff, String.append_assoc,
      folded_append, String.toList_append]
    exact lower_part h
  refine ⟨fun c part => exists_compare_texts c _ _, hstarts, hends, hcontains, fun hsigma => ?_⟩
  simp only [String.toList_append, List.mem_append, not_or] at hsigma
  obtain ⟨⟨hp, hm⟩, hs⟩ := hsigma
  exact ⟨hstarts.mpr (sigmasKept_of_not_mem hp _ _), hcontains (sigmasKept_of_not_mem hm _ _),
    hends.mpr (sigmasKept_of_not_mem hs _ _)⟩

/-- The sigma of `ΟΔΟΣ` ends a word in front of a blank too. -/
theorem a_street_is_found_by_its_name :
    SigmasKept [] "ΟΔΟΣ".toList (" " ++ "ΑΒΓ").toList ∧ 'Σ' ∉ ("Foo" ++ "B" ++ "AR").toList ∧
      (present "ΟΔΟΣ ΑΒΓ" .string).compare .startsWith (present "ΟΔΟΣ" .string) = .ok true ∧
      (present "FooBAR" .string).compare .contains (present "B" .string) = .ok true := by
  have hkept : SigmasKept [] "ΟΔΟΣ".toList (" " ++ "ΑΒΓ").toList :=
    lowerBetween_eq_lower_iff.mp (by decide +kernel)
  have hnone : 'Σ' ∉ ("Foo" ++ "B" ++ "AR").toList := by decide
  obtain ⟨-, hstarts, -⟩ := a_part_is_found_unless_a_sigma_changes "ΟΔΟΣ" " " "ΑΒΓ"
  obtain ⟨-, -, -, -, hall⟩ := a_part_is_found_unless_a_sigma_changes "Foo" "B" "AR"
  exact ⟨hkept, hnone, hstarts.mpr hkept, (hall hnone).2.1⟩

/-- `ΑΣΑ` begins with `ΑΣ`, and yet it is not found: in the part the sigma ends the word. -/
theorem a_final_sigma_is_lost :
    (present "ΑΣΑ" .string).compare .startsWith (present "ΑΣ" .string) = .ok false ∧
      (present "ΑΣΑ" .string).compare .contains (present "ΑΣ" .string) = .ok false ∧
      (present "ΑΣ" .string).compare .endsWith (present "Σ" .string) = .ok false ∧
      ¬ ∀ p m s : String,
        (present (p ++ m ++ s) .string).compare .contains (present m .string) = .ok true ∧
          (present (p ++ m ++ s) .string).compare .startsWith (present p .string) = .ok true ∧
          (present (p ++ m ++ s) .string).compare .endsWith (present s .string) = .ok true := by
  have hlost : (present "ΑΣΑ" .string).compare .startsWith (present "ΑΣ" .string) = .ok false :=
    (compare_texts rfl (by decide) _ _).trans (congrArg _ (by decide +kernel))
  have hpart : (present "ΑΣΑ" .string).compare .contains (present "ΑΣ" .string) = .ok false :=
    (compare_texts rfl (by decide) _ _).trans (congrArg _ (by decide +kernel))
  have hend : (present "ΑΣ" .string).compare .endsWith (present "Σ" .string) = .ok false :=
    (compare_texts rfl (by decide) _ _).trans (congrArg _ (by decide +kernel))
  refine ⟨hlost, hpart, hend, fun h => ?_⟩
  obtain ⟨-, hfound, -⟩ := h "ΑΣ" "" "Α"
  have htext : "ΑΣ" ++ "" ++ "Α" = "ΑΣΑ" := by decide
  rw [htext, hlost] at hfound
  cases hfound

end TypedValue

end Verdict
