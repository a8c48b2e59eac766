-- The laws of the repair. Whatever the elements are, the repaired formula is
-- a sentence or empty, and its parentheses always pass the check at the end.
-- The completed formula is a sentence that refers to every condition, and a
-- formula that is one already stays as it is, without a report.
import Mathlib.Data.List.DropRight
import Verdict.Proofs.Formula.Recognition

namespace Verdict.Formula

variable {maxId : Nat}

/-! ## Taking out -/

theorem legal_kept (maxId : Nat) (p : Progress) (es : List Element) :
    Legal maxId p (kept maxId p es) := by
  induction es generalizing p with
  | nil => exact trivial
  | cons e es ih =>
    unfold kept
    by_cases he : p.admits maxId e = true
    · rw [if_pos he]
      exact ⟨he, ih _⟩
    · rw [if_neg he]
      exact ih p

/-- From a legal list nothing is taken out. -/
theorem kept_of_legal {p : Progress} {es : List Element} (h : Legal maxId p es) :
    kept maxId p es = es := by
  induction es generalizing p with
  | nil => rfl
  | cons e es ih =>
    unfold kept
    rw [if_pos h.1, ih h.2]

theorem refused_of_legal {p : Progress} {place : Nat} {es : List Element}
    (h : Legal maxId p es) : refused maxId p place es = [] := by
  induction es generalizing p place with
  | nil => rfl
  | cons e es ih =>
    unfold refused
    rw [if_pos h.1, ih h.2]

/-- What stays of the elements behind others is decided behind what stays of those. -/
theorem kept_append (maxId : Nat) (p : Progress) (as bs : List Element) :
    kept maxId p (as ++ bs) = kept maxId p as ++ kept maxId (p.after (kept maxId p as)) bs := by
  induction as generalizing p with
  | nil => rfl
  | cons e as ih =>
    rw [List.cons_append, kept, kept]
    by_cases he : p.admits maxId e = true
    · simp only [if_pos he, ih, List.cons_append, Progress.after_cons]
    · simp only [if_neg he, ih]

theorem refused_append (maxId : Nat) (p : Progress) (place : Nat) (as bs : List Element) :
    refused maxId p place (as ++ bs) =
      refused maxId p place as ++
        refused maxId (p.after (kept maxId p as)) (place + as.length) bs := by
  induction as generalizing p place with
  | nil => rfl
  | cons e as ih =>
    have hplace : place + (e :: as).length = place + 1 + as.length := by
      rw [List.length_cons]
      omega
    rw [List.cons_append, refused, refused, kept, hplace]
    by_cases he : p.admits maxId e = true
    · simp only [if_pos he, ih, Progress.after_cons]
    · simp only [if_neg he, ih, List.cons_append]

/-! ## The tail -/

theorem withoutTail_eq (es : List Element) : withoutTail es = es.rdropWhile isHanging := rfl

theorem withoutTail_concat (es : List Element) (e : Element) :
    withoutTail (es ++ [e]) = if isHanging e then withoutTail es else es ++ [e] := by
  rw [withoutTail_eq, withoutTail_eq, List.rdropWhile_concat]

/-- An operand ends in front of the place behind an element that does not hang. -/
theorem endsOperand_behind (e : Element) :
    (Place.behind e).endsOperand = !isHanging e := by
  rcases e with o | id
  · cases o <;> rfl
  · rfl

theorem endsOperand_after {p : Progress} {es : List Element} (h : es ≠ []) :
    (p.after es).place.endsOperand = !isHanging (es.getLast h) := by
  have hs : p.after es = (p.after es.dropLast).push (es.getLast h) := by
    have hes := List.dropLast_append_getLast h
    rw [← Progress.after_nil ((p.after es.dropLast).push _), ← Progress.after_cons,
      ← Progress.after_append, hes]
  rw [hs]
  exact endsOperand_behind _

theorem Legal.withoutTail {p : Progress} {es : List Element} (h : Legal maxId p es) :
    Legal maxId p (withoutTail es) := by
  obtain ⟨tail, ht⟩ := List.rdropWhile_prefix isHanging es
  rw [← ht, legal_append] at h
  exact h.1

theorem endsOperand_withoutTail {p : Progress} {es : List Element} (h : withoutTail es ≠ []) :
    (p.after (withoutTail es)).place.endsOperand = true := by
  have hlast : isHanging ((withoutTail es).getLast h) = false :=
    Bool.eq_false_iff.mpr (List.rdropWhile_last_not isHanging es h)
  rw [endsOperand_after h, hlast]
  rfl

/-- A sentence has no tail. -/
theorem withoutTail_of_endsOperand {p : Progress} {es : List Element}
    (h : (p.after es).place.endsOperand = true) : withoutTail es = es := by
  rw [withoutTail_eq, List.rdropWhile_eq_self_iff]
  intro hne
  rw [endsOperand_after hne] at h
  simpa using h

/-! ## The parentheses -/

theorem openCount_eq (es : List Element) : openCount es = (Progress.start.after es).depth := rfl

/-- As many closing parentheses as are open may stand behind an operand. -/
theorem legal_replicate_closeParen (maxId : Nat) {p : Progress}
    (h : p.place.endsOperand = true) (n : Nat) (hn : p.depth = n) :
    Legal maxId p (List.replicate n (.op .closeParen)) ∧
      (p.after (List.replicate n (.op .closeParen))).place.endsOperand = true ∧
      (p.after (List.replicate n (.op .closeParen))).depth = 0 := by
  induction n generalizing p with
  | zero => exact ⟨trivial, h, hn⟩
  | succ n ih =>
    have hd : 0 < p.depth := by omega
    have hpush : (p.push (.op .closeParen)).depth = n := by
      simp only [Progress.push]
      omega
    obtain ⟨h1, h2, h3⟩ := ih (p := p.push (.op .closeParen)) rfl hpush
    rw [List.replicate_succ]
    exact ⟨⟨Progress.admits_closeParen h hd, h1⟩, h2, h3⟩

/-- A legal list with an operand at its end is a sentence when its parentheses are closed. -/
theorem isSentence_closed {es : List Element} (hl : Legal maxId .start es)
    (he : (Progress.start.after es).place.endsOperand = true) :
    IsSentence maxId (closed es) := by
  obtain ⟨h1, h2, h3⟩ := legal_replicate_closeParen maxId he (openCount es) rfl
  rw [isSentence_iff]
  unfold closed
  rw [legal_append, Progress.after_append]
  exact ⟨⟨hl, h1⟩, h2, h3⟩

theorem closed_of_depth {es : List Element} (h : (Progress.start.after es).depth = 0) :
    closed es = es := by
  unfold closed
  rw [openCount_eq, h]
  simp

/-- A legal list is balanced if it leaves no parenthesis open. -/
theorem Legal.isBalancedFrom {p : Progress} {es : List Element} (h : Legal maxId p es)
    (hd : (p.after es).depth = 0) : isBalancedFrom p.depth es = true := by
  induction es generalizing p with
  | nil => simpa [Formula.isBalancedFrom] using hd
  | cons e es ih =>
    have hes := ih h.2 hd
    have ha := h.1
    rcases e with o | id
    · cases o with
      | closeParen =>
        obtain ⟨place, depth⟩ := p
        simp only [Progress.admits, Bool.and_eq_true, decide_eq_true_eq] at ha
        obtain ⟨d, rfl⟩ : ∃ d, depth = d + 1 := ⟨depth - 1, by omega⟩
        exact hes
      | _ => simpa [Formula.isBalancedFrom, Progress.push] using hes
    · simpa [Formula.isBalancedFrom, Progress.push] using hes

/-! ## Repair -/

/-- What the repair gives. -/
def repaired (maxId : Nat) (es : List Element) : List Element :=
  closed (withoutTail (kept maxId .start es))

/-- The repaired formula is a sentence if anything is left of it. -/
theorem isSentence_repaired {es : List Element} (h : repaired maxId es ≠ []) :
    IsSentence maxId (repaired maxId es) := by
  have hne : withoutTail (kept maxId .start es) ≠ [] := by
    intro hw
    unfold repaired at h
    rw [hw] at h
    exact h rfl
  exact isSentence_closed (legal_kept maxId .start es).withoutTail (endsOperand_withoutTail hne)

theorem IsSentence.isBalanced {es : List Element} (h : IsSentence maxId es) :
    isBalanced es = true := by
  obtain ⟨hl, _, hd⟩ := isSentence_iff.mp h
  exact hl.isBalancedFrom hd

/-- The check of the parentheses never fails. -/
theorem repair_eq (maxId : Nat) (es : List Element) :
    repair maxId es = .ok (repaired maxId es) := by
  have hb : isBalanced (repaired maxId es) = true := by
    by_cases h : repaired maxId es = []
    · rw [h]
      rfl
    · exact (isSentence_repaired h).isBalanced
  unfold repaired at hb
  unfold repair repaired
  simp only [hb, if_true]

theorem repairedOrEmpty_eq (maxId : Nat) (es : List Element) :
    repairedOrEmpty maxId es = repaired maxId es := by
  unfold repairedOrEmpty
  rw [repair_eq]

/-- A sentence is repaired already. -/
theorem IsSentence.repaired_eq {es : List Element} (h : IsSentence maxId es) :
    repaired maxId es = es := by
  obtain ⟨hl, he, hd⟩ := isSentence_iff.mp h
  unfold repaired
  rw [kept_of_legal hl, withoutTail_of_endsOperand he, closed_of_depth hd]

theorem IsSentence.refused_eq {es : List Element} (h : IsSentence maxId es) (place : Nat) :
    refused maxId .start place es = [] :=
  refused_of_legal (isSentence_iff.mp h).1

/-! ## Completion -/

theorem mem_missing {id : Nat} {es : List Element} :
    id ∈ missing maxId es ↔ id ≤ maxId ∧ id ∉ ids es := by
  unfold missing
  rw [List.mem_filter, List.mem_range, Nat.lt_succ_iff]
  simp only [Bool.not_eq_true', List.contains_eq_mem, decide_eq_false_iff_not]

/-- Ids joined to a sentence are joined to its last operand. -/
theorem joined_elements (s : Sentence) (extra : List Nat) :
    joined s.elements extra = (s.orRefs extra).elements := by
  unfold joined
  rw [s.elements_orRefs extra]
  rcases hs : s.elements with _ | ⟨e, es⟩
  · exact absurd hs s.elements_ne_nil
  · rfl

/-- Ids joined to no elements are a chain of references. -/
theorem joined_nil (id : Nat) (extra : List Nat) :
    joined [] (id :: extra) = ((Operand.plain (.ref id)).orRefs extra).elements := by
  rw [Operand.elements_orRefs]
  rfl

theorem missing_nil (maxId : Nat) :
    missing maxId [] = 0 :: (List.range maxId).map Nat.succ := by
  simp [missing, List.range_succ_eq_map]

theorem ids_links (extra : List Nat) :
    ids (extra.flatMap fun id => [.op .or, .ref id]) = extra := by
  induction extra with
  | nil => rfl
  | cons id extra ih => simp [ih]

theorem ids_joined (es : List Element) (extra : List Nat) :
    ids (joined es extra) = ids es ++ extra := by
  unfold joined
  rcases es with _ | ⟨e, es⟩
  · rcases extra with _ | ⟨id, extra⟩
    · rfl
    · simp [ids_links]
  · show ids ((e :: es) ++ _) = _
    rw [ids_append, ids_links]

theorem normalize_eq (maxId : Nat) (es : List Element) :
    normalize maxId es = joined (repaired maxId es) (missing maxId (repaired maxId es)) := by
  unfold normalize
  rw [repairedOrEmpty_eq]

/-- The completed formula is a sentence over the ids, and refers to each of them. -/
theorem isComplete_normalize (maxId : Nat) (es : List Element) :
    IsComplete maxId (normalize maxId es) := by
  rw [normalize_eq]
  have hids := ids_joined (repaired maxId es) (missing maxId (repaired maxId es))
  refine ⟨⟨?_, ?_⟩, ?_⟩
  · by_cases h : repaired maxId es = []
    · rw [h, missing_nil, joined_nil]
      exact ⟨_, rfl⟩
    · obtain ⟨⟨s, hs⟩, -⟩ := isSentence_repaired h
      rw [← hs, joined_elements]
      exact ⟨_, rfl⟩
  · intro id hid
    rw [hids, List.mem_append] at hid
    rcases hid with hid | hid
    · by_cases h : repaired maxId es = []
      · simp [h] at hid
      · exact (isSentence_repaired h).2 id hid
    · exact (mem_missing.mp hid).1
  · intro id hid
    rw [hids, List.mem_append]
    by_cases h : id ∈ ids (repaired maxId es)
    · exact Or.inl h
    · exact Or.inr (mem_missing.mpr ⟨hid, h⟩)

/-- Nothing is missing in a complete formula. -/
theorem IsComplete.missing_eq {es : List Element} (h : IsComplete maxId es) :
    missing maxId es = [] := by
  rw [List.eq_nil_iff_forall_not_mem]
  intro id hid
  obtain ⟨hle, hnot⟩ := mem_missing.mp hid
  exact hnot (h.2 id hle)

theorem IsComplete.normalize_eq {es : List Element} (h : IsComplete maxId es) :
    normalize maxId es = es := by
  obtain ⟨s, rfl⟩ := h.1.1
  rw [Formula.normalize_eq, h.1.repaired_eq, h.missing_eq, joined_elements, s.elements_orRefs]
  simp

/-- A complete formula is completed in silence. -/
theorem IsComplete.normalizeReports_eq {es : List Element} (h : IsComplete maxId es)
    (context : String) : normalizeReports maxId es context = [] := by
  unfold normalizeReports repairReports
  simp [repair_eq, repairedOrEmpty_eq, h.1.refused_eq, h.1.repaired_eq, h.missing_eq]

/-- Whatever the elements are, the completed formula is a sentence over the ids up to `maxId` that
refers to each of them. The complete formulas are those that stay as they are, and about them
nothing is reported. So a second completion changes nothing and is silent. -/
theorem completion_gives_the_complete_formulas (maxId : Nat) (es : List Element) :
    IsComplete maxId (normalize maxId es) ∧ normalize maxId es ≠ [] ∧
      (normalize maxId es = es ↔ IsComplete maxId es) ∧
      (normalize maxId es = es → ∀ context, normalizeReports maxId es context = []) ∧
      normalize maxId (normalize maxId es) = normalize maxId es ∧
      ∀ context, normalizeReports maxId (normalize maxId es) context = [] := by
  have h := isComplete_normalize maxId es
  have hiff : normalize maxId es = es ↔ IsComplete maxId es :=
    ⟨fun he => he ▸ h, IsComplete.normalize_eq⟩
  refine ⟨h, ?_, hiff, ?_, h.normalize_eq, h.normalizeReports_eq⟩
  · obtain ⟨⟨s, hs⟩, -⟩ := h.1
    rw [← hs]
    exact s.elements_ne_nil
  · intro he
    exact (hiff.mp he).normalizeReports_eq

end Verdict.Formula
