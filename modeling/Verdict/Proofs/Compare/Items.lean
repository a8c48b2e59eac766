-- The comparator that looks for a text among the items of a list. It takes the
-- small letters of the whole list before it splits the list, and yet it finds
-- exactly the texts that are equal to one of the items.
import Verdict.Proofs.Compare.Failure
import Verdict.Proofs.Compare.Parts
import Verdict.Proofs.Text.Gaps

namespace Verdict

namespace Text

/-- The items of a list: what stands between its commas. -/
def items (list : String) : List String := (split ',' list.toList).map String.ofList

theorem order_eq_iff {as bs : List Char} : order as bs = .eq ↔ as = bs := by
  induction as generalizing bs with
  | nil => cases bs <;> simp [order]
  | cons a as ih =>
    cases bs with
    | nil => simp [order]
    | cons b bs =>
      rw [order, Ordering.then_eq_eq, Nat.compare_eq_eq, ih, Char.toNat_inj, List.cons.injEq]

end Text

theorem orderTexts_eq_iff {a b : String} : orderTexts a b = .eq ↔ folded a = folded b :=
  Text.order_eq_iff

theorem folded_trimmed (text : String) :
    folded (Text.trimmed text) = Text.trim (folded text) := by
  unfold folded
  rw [Text.trimmed_toList, Text.trim_lower]

/-- The items of a list without regard to case: small letters can be taken first or last. -/
theorem map_trim_split_folded (list : String) :
    (Text.split ',' (folded list)).map Text.trim =
      (Text.items list).map fun item => folded (Text.trimmed item) := by
  unfold folded Text.items
  rw [Text.map_trim_split_lower, List.map_map]
  refine List.map_congr_left fun item _ => ?_
  rw [Function.comp_apply, Text.trimmed_toList, String.toList_ofList]

theorem testTexts_isOneOf_iff {text list : String} : testTexts .isOneOf text list = true ↔
    ∃ item ∈ Text.items list, folded (Text.trimmed text) = folded (Text.trimmed item) := by
  have hmem : testTexts .isOneOf text list = true ↔
      Text.trim (folded text) ∈ (Text.split ',' (folded list)).map Text.trim := by
    simp [testTexts, isOneOf]
  rw [hmem, map_trim_split_folded, List.mem_map, folded_trimmed]
  simp only [eq_comm]

namespace TypedValue

theorem compare_texts_eq_iff {a b : String} :
    (present a .string).compare .eq (present b .string) = .ok true ↔ folded a = folded b := by
  rw [compare_of_present rfl rfl rfl, ← orderTexts_eq_iff]
  show Except.ok ((Comparator.eq.testOrdering? (orderTexts a b)).getD false) = _ ↔ _
  cases orderTexts a b <;> decide

/-- Of two values that are compared as texts, the first is one of the items of the second exactly
if it is equal to one of these items, blanks around both left out. The comparison does not fail,
and the items that it looks at, in small letters, are those of the items by themselves. -/
theorem a_text_is_one_of_the_items_that_it_equals {a b : TypedValue} {s t : String}
    (ha : a.value = some s) (hb : b.value = some t)
    (hkinds : ∀ kind, ¬ OnlyOrdered a.kind b.kind kind) :
    (∃ answer, a.compare .isOneOf b = .ok answer) ∧
      (a.compare .isOneOf b = .ok true ↔
        ∃ item ∈ Text.items t, (present (Text.trimmed s) .string).compare .eq
          (present (Text.trimmed item) .string) = .ok true) ∧
      (Text.split ',' (folded t)).map Text.trim =
        (Text.items t).map fun item => folded (Text.trimmed item) := by
  have hnone : (Manner.ofKinds a.kind b.kind).strictKind? = none := by
    rcases hstrict : (Manner.ofKinds a.kind b.kind).strictKind? with _ | kind
    · rfl
    · exact absurd (onlyOrdered_iff.mpr hstrict) (hkinds kind)
  have hcompare : a.compare .isOneOf b = .ok (testTexts .isOneOf s t) := by
    rw [compare_of_not_relational ha hb rfl (by decide), hnone]
  refine ⟨⟨_, hcompare⟩, ?_, map_trim_split_folded t⟩
  rw [hcompare, Except.ok.injEq, testTexts_isOneOf_iff]
  simp only [compare_texts_eq_iff]

/-- The capital sigma of `ΟΔΟΣ` ends the item, whatever comes behind the comma, and so the item is
the text in small letters. -/
theorem a_street_is_one_of_two :
    let street := present " οδος" .string
    let streets := present "a,ΟΔΟΣ\u3000,Β" .string
    (∀ kind, ¬ OnlyOrdered street.kind streets.kind kind) ∧
      street.compare .isOneOf streets = .ok true ∧
      ∃ item ∈ Text.items "a,ΟΔΟΣ\u3000,Β", (present (Text.trimmed " οδος") .string).compare .eq
        (present (Text.trimmed item) .string) = .ok true := by
  intro street streets
  have hkinds : ∀ kind, ¬ OnlyOrdered street.kind streets.kind kind := by
    intro kind h
    cases h
  obtain ⟨-, hiff, -⟩ := a_text_is_one_of_the_items_that_it_equals (a := street) (b := streets)
    rfl rfl hkinds
  have hfound : street.compare .isOneOf streets = .ok true := by decide +kernel
  exact ⟨hkinds, hfound, hiff.mp hfound⟩

end TypedValue

end Verdict
