-- Small letters of a text that is put together from parts. A part has the small
-- letters that it has by itself, unless one of its sigmas ends a word in only
-- one of the two texts.
import Verdict.Text.LowerCase
import Verdict.Text.Split

namespace Verdict.Text

/-! ## A part of a text -/

/-- The small form of the part of a text between `before`, the last character first, and `after`. -/
def lowerBetween (before : List Char) : List Char → List Char → List Char
  | [], _ => []
  | c :: rest, after =>
    (if c = 'Σ' then [if endsWord before (rest ++ after) then 'ς' else 'σ'] else lowerChar c)
      ++ lowerBetween (c :: before) rest after

theorem lowerBetween_nil_right (before cs : List Char) :
    lowerBetween before cs [] = lowerAfter before cs := by
  induction cs generalizing before with
  | nil => rfl
  | cons c cs ih => rw [lowerBetween, lowerAfter, ih, List.append_nil]

theorem lowerBetween_append (before as bs after : List Char) :
    lowerBetween before (as ++ bs) after =
      lowerBetween before as (bs ++ after) ++ lowerBetween (as.reverse ++ before) bs after := by
  induction as generalizing before with
  | nil => rfl
  | cons a as ih =>
    simp only [List.cons_append, lowerBetween, ih, List.reverse_cons, List.append_assoc,
      List.nil_append]

theorem lower_eq_lowerBetween (cs : List Char) : lower cs = lowerBetween [] cs [] :=
  (lowerBetween_nil_right [] cs).symm

/-- The small forms of the two parts of a text. -/
theorem lower_append (as bs : List Char) :
    lower (as ++ bs) = lowerBetween [] as bs ++ lowerBetween as.reverse bs [] := by
  rw [lower_eq_lowerBetween, lowerBetween_append, List.append_nil, List.append_nil]

theorem lowerBetween_cons_of_ne {c : Char} (hc : c ≠ 'Σ') (before cs after : List Char) :
    lowerBetween before (c :: cs) after = lowerChar c ++ lowerBetween (c :: before) cs after := by
  rw [lowerBetween, if_neg hc]

theorem lowerBetween_sigma (before cs after : List Char) :
    lowerBetween before ('Σ' :: cs) after =
      (if endsWord before (cs ++ after) then 'ς' else 'σ') ::
        lowerBetween ('Σ' :: before) cs after := by
  rw [lowerBetween, if_pos rfl]
  rfl

/-- What stands around a part does not change the length of its small form. -/
theorem length_lowerBetween (before cs after : List Char) :
    (lowerBetween before cs after).length = (lower cs).length := by
  rw [lower_eq_lowerBetween]
  suffices h : ∀ before' after', (lowerBetween before cs after).length =
      (lowerBetween before' cs after').length from h [] []
  induction cs generalizing before with
  | nil => exact fun _ _ => rfl
  | cons c cs ih =>
    intro before' after'
    by_cases hc : c = 'Σ'
    · subst hc
      rw [lowerBetween_sigma, lowerBetween_sigma, List.length_cons, List.length_cons, ih]
    · rw [lowerBetween_cons_of_ne hc, lowerBetween_cons_of_ne hc, List.length_append,
        List.length_append, ih]

/-! ## Sigmas -/

/-- Between `before`, the last character first, and `after`, the same sigmas of a text end a word
as in the text by itself. -/
def SigmasKept (before cs after : List Char) : Prop :=
  ∀ x y, cs = x ++ 'Σ' :: y →
    endsWord (x.reverse ++ before) (y ++ after) = endsWord x.reverse y

theorem sigmasKept_of_not_mem {cs : List Char} (h : 'Σ' ∉ cs) (before after : List Char) :
    SigmasKept before cs after := by
  rintro x y rfl
  simp at h

/-- Two small forms of one part are equal if the same sigmas end a word in both. -/
theorem lowerBetween_eq_iff {before before' cs after after' : List Char} :
    lowerBetween before cs after = lowerBetween before' cs after' ↔
      ∀ x y, cs = x ++ 'Σ' :: y →
        endsWord (x.reverse ++ before) (y ++ after) =
          endsWord (x.reverse ++ before') (y ++ after') := by
  induction cs generalizing before before' with
  | nil => simp [lowerBetween]
  | cons c cs ih =>
    -- The first sigma may be the first character, or it comes later.
    have hlater : (∀ x y, c :: cs = x ++ 'Σ' :: y →
        endsWord (x.reverse ++ before) (y ++ after) =
          endsWord (x.reverse ++ before') (y ++ after')) ↔
        (c = 'Σ' → endsWord before (cs ++ after) = endsWord before' (cs ++ after')) ∧
          lowerBetween (c :: before) cs after = lowerBetween (c :: before') cs after' := by
      rw [ih]
      constructor
      · refine fun h => ⟨fun hc => h [] cs (by rw [hc]; rfl), fun x y hxy => ?_⟩
        simpa using h (c :: x) y (by rw [hxy]; rfl)
      · rintro ⟨hfirst, hrest⟩ x y hxy
        rcases x with _ | ⟨d, x⟩
        · obtain ⟨rfl, rfl⟩ := List.cons.inj hxy
          exact hfirst rfl
        · obtain ⟨rfl, hcs⟩ := List.cons.inj hxy
          simpa using hrest x y hcs
    rw [hlater]
    by_cases hc : c = 'Σ'
    · subst hc
      rw [lowerBetween_sigma, lowerBetween_sigma, List.cons.injEq]
      refine and_congr_left fun _ => ?_
      cases endsWord before (cs ++ after) <;> cases endsWord before' (cs ++ after') <;> simp
    · rw [lowerBetween_cons_of_ne hc, lowerBetween_cons_of_ne hc, List.append_cancel_left_eq]
      simp [hc]

/-- A part has the small form that it has by itself if the same sigmas end a word. -/
theorem lowerBetween_eq_lower_iff {before cs after : List Char} :
    lowerBetween before cs after = lower cs ↔ SigmasKept before cs after := by
  rw [lower_eq_lowerBetween, lowerBetween_eq_iff]
  simp only [List.append_nil]
  rfl

/-! ## Parts of small forms -/

theorem isPart_iff {part cs : List Char} : isPart part cs = true ↔ part <:+: cs := by
  induction cs with
  | nil => simp [isPart, List.isEmpty_iff]
  | cons c cs ih =>
    rw [isPart, Bool.or_eq_true, List.isPrefixOf_iff_prefix, ih, List.infix_cons_iff]

theorem lower_prefix_iff {as bs : List Char} :
    lower as <+: lower (as ++ bs) ↔ SigmasKept [] as bs := by
  rw [lower_append, ← lowerBetween_eq_lower_iff]
  constructor
  · rintro ⟨rest, hrest⟩
    exact (List.append_inj hrest (length_lowerBetween ..).symm).1.symm
  · intro h
    exact h ▸ List.prefix_append ..

theorem lower_suffix_iff {as bs : List Char} :
    lower bs <:+ lower (as ++ bs) ↔ SigmasKept as.reverse bs [] := by
  rw [lower_append, ← lowerBetween_eq_lower_iff]
  constructor
  · rintro ⟨rest, hrest⟩
    exact (List.append_inj' hrest (length_lowerBetween ..).symm).2.symm
  · intro h
    exact h ▸ List.suffix_append ..

theorem lower_part {as bs cs : List Char} (h : SigmasKept as.reverse bs cs) :
    lower bs <:+: lower (as ++ (bs ++ cs)) := by
  rw [lower_append, lowerBetween_append, List.append_nil, lowerBetween_eq_lower_iff.mpr h]
  exact ⟨_, _, List.append_assoc ..⟩

end Verdict.Text
