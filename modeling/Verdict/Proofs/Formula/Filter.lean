-- The repair as a filter. Taken from the left, an element stays if and only if
-- some sentence begins with what has stayed so far and the element behind it.
-- What stays loses the operators that hang at its end, and its open parentheses
-- are closed. The count of open parentheses that runs beside all this never has
-- to fall below zero, so the check at the end never fails.
import Verdict.Proofs.Formula.Repair

namespace Verdict.Formula

variable {maxId : Nat}

/-! ## Beginnings of sentences -/

/-- Some sentence over the ids up to `maxId` begins with the list. -/
def BeginsSentence (maxId : Nat) (es : List Element) : Prop :=
  ∃ more, IsSentence maxId (es ++ more)

theorem BeginsSentence.legal {es : List Element} (h : BeginsSentence maxId es) :
    Legal maxId .start es := by
  obtain ⟨more, hs⟩ := h
  obtain ⟨hl, -⟩ := isSentence_iff.mp hs
  rw [legal_append] at hl
  exact hl.1

/-- A legal list can be brought to the end of a sentence. Where no operand ends, a reference may
stand, and behind it the open parentheses can be closed. -/
theorem Legal.beginsSentence {es : List Element} (h : Legal maxId .start es) :
    BeginsSentence maxId es := by
  by_cases hends : (Progress.start.after es).place.endsOperand = true
  · exact ⟨_, isSentence_closed h hends⟩
  · have hl : Legal maxId .start (es ++ [.ref 0]) := by
      rw [legal_append]
      exact ⟨h, Progress.admits_ref (by simpa using hends) (Nat.zero_le maxId), trivial⟩
    have hs : IsSentence maxId (closed (es ++ [.ref 0])) := by
      apply isSentence_closed hl
      rw [Progress.after_append]
      rfl
    rw [closed, List.append_assoc] at hs
    exact ⟨_, hs⟩

theorem beginsSentence_iff {es : List Element} :
    BeginsSentence maxId es ↔ Legal maxId .start es :=
  ⟨BeginsSentence.legal, Legal.beginsSentence⟩

/-- Whether a beginning goes on with an element is told by the place and the open parentheses. -/
theorem beginsSentence_concat_iff {es : List Element} (h : Legal maxId .start es) (e : Element) :
    BeginsSentence maxId (es ++ [e]) ↔ (Progress.start.after es).admits maxId e = true := by
  rw [beginsSentence_iff, legal_append, legal_cons]
  simp [h]

/-! ## The filter -/

/-- What stays of a list and what goes, with its places, when each element in turn stays if and only
if some sentence begins with what has stayed before it and the element. -/
inductive Filters (maxId : Nat) :
    List Element → List Element → List (Nat × Element) → Prop
  | nil : Filters maxId [] [] []
  | stays {es stayed : List Element} {gone : List (Nat × Element)} {e : Element} :
      Filters maxId es stayed gone → BeginsSentence maxId (stayed ++ [e]) →
      Filters maxId (es ++ [e]) (stayed ++ [e]) gone
  | goes {es stayed : List Element} {gone : List (Nat × Element)} {e : Element} :
      Filters maxId es stayed gone → ¬ BeginsSentence maxId (stayed ++ [e]) →
      Filters maxId (es ++ [e]) stayed (gone ++ [(es.length, e)])

theorem kept_concat (es : List Element) (e : Element) :
    kept maxId .start (es ++ [e]) =
      if (Progress.start.after (kept maxId .start es)).admits maxId e then
        kept maxId .start es ++ [e]
      else kept maxId .start es := by
  rw [kept_append, kept]
  split
  · rfl
  · exact List.append_nil _

theorem refused_concat (es : List Element) (e : Element) :
    refused maxId .start 0 (es ++ [e]) =
      if (Progress.start.after (kept maxId .start es)).admits maxId e then
        refused maxId .start 0 es
      else refused maxId .start 0 es ++ [(es.length, e)] := by
  rw [refused_append, refused, Nat.zero_add]
  split
  · exact List.append_nil _
  · rfl

/-- The scan is the filter. -/
theorem filters_iff {es stayed : List Element} {gone : List (Nat × Element)} :
    Filters maxId es stayed gone ↔
      stayed = kept maxId .start es ∧ gone = refused maxId .start 0 es := by
  constructor
  · intro h
    induction h with
    | nil => exact ⟨rfl, rfl⟩
    | @stays es stayed gone e _ hbegins ih =>
      obtain ⟨rfl, rfl⟩ := ih
      rw [beginsSentence_concat_iff (legal_kept maxId .start es)] at hbegins
      rw [kept_concat, refused_concat, if_pos hbegins, if_pos hbegins]
      exact ⟨rfl, rfl⟩
    | @goes es stayed gone e _ hbegins ih =>
      obtain ⟨rfl, rfl⟩ := ih
      rw [beginsSentence_concat_iff (legal_kept maxId .start es)] at hbegins
      rw [kept_concat, refused_concat, if_neg hbegins, if_neg hbegins]
      exact ⟨rfl, rfl⟩
  · rintro ⟨rfl, rfl⟩
    induction es using List.reverseRecOn with
    | nil => exact .nil
    | append_singleton es e ih =>
      have hiff := beginsSentence_concat_iff (legal_kept maxId .start es) e
      rw [kept_concat, refused_concat]
      by_cases he : (Progress.start.after (kept maxId .start es)).admits maxId e = true
      · rw [if_pos he, if_pos he]
        exact .stays ih (hiff.mpr he)
      · rw [if_neg he, if_neg he]
        exact .goes ih fun hbegins => he (hiff.mp hbegins)

/-! ## The tail -/

/-- What is taken off the end is the longest tail of operators that need an operand behind them. -/
theorem exists_tail (es : List Element) :
    ∃ tail, es = withoutTail es ++ tail ∧ (∀ e ∈ tail, isHanging e = true) ∧
      ∀ more, more <:+ es → (∀ e ∈ more, isHanging e = true) → more <:+ tail := by
  refine ⟨es.rtakeWhile isHanging, ?_, ?_, ?_⟩
  · rw [withoutTail_eq, List.rdropWhile_append_rtakeWhile]
  · intro e he
    exact List.mem_rtakeWhile_imp he
  · rintro more ⟨front, rfl⟩ hmore
    have hreverse : ∀ e ∈ more.reverse, isHanging e = true := by simpa using hmore
    rw [List.rtakeWhile, List.reverse_append, List.takeWhile_append_of_pos hreverse,
      List.reverse_append, List.reverse_reverse]
    exact List.suffix_append _ more

/-! ## The count of open parentheses -/

/-- One less. There is nothing below zero. -/
def lowered? : Nat → Option Nat
  | 0 => none
  | n + 1 => some n

/-- The count behind an element. -/
def counted? (count : Nat) : Element → Option Nat
  | .op .openParen => some (count + 1)
  | .op .closeParen => lowered? count
  | _ => some count

/-- The scan with the count beside it: what stays, and the count at the end. -/
def scanned? (maxId : Nat) : Progress → List Element → Option (List Element × Nat)
  | p, [] => some ([], p.depth)
  | p, e :: es =>
    if p.admits maxId e then do
      let count ← counted? p.depth e
      let (stayed, last) ← scanned? maxId ⟨.behind e, count⟩ es
      return (e :: stayed, last)
    else scanned? maxId p es

/-- Takes the hanging operators off the end of a list that is given from its end on. The count goes
down for each open parenthesis that goes. -/
def trimmed? : Nat → List Element → Option (List Element × Nat)
  | count, [] => some ([], count)
  | count, e :: es =>
    if isHanging e then do
      let count ← if e = .op .openParen then lowered? count else some count
      trimmed? count es
    else some (e :: es, count)

/-- The repair with the count beside it. Nothing comes out if the count would have to fall below
zero. -/
def countedRepair? (maxId : Nat) (es : List Element) : Option (List Element) := do
  let (stayed, count) ← scanned? maxId .start es
  let (body, last) ← trimmed? count stayed.reverse
  return body.reverse ++ List.replicate last (.op .closeParen)

/-- A parenthesis that may be closed is counted. -/
theorem counted?_of_admits {p : Progress} {e : Element} (h : p.admits maxId e = true) :
    counted? p.depth e = some (p.push e).depth := by
  rcases e with o | id
  · cases o with
    | closeParen =>
      obtain ⟨place, depth⟩ := p
      simp only [Progress.admits, Bool.and_eq_true, decide_eq_true_eq] at h
      obtain ⟨n, rfl⟩ := Nat.exists_eq_succ_of_ne_zero (Nat.ne_of_gt h.2)
      rfl
    | and | or | xor | not | openParen => rfl
  · rfl

theorem scanned?_eq (p : Progress) (es : List Element) :
    scanned? maxId p es = some (kept maxId p es, (p.after (kept maxId p es)).depth) := by
  induction es generalizing p with
  | nil => rfl
  | cons e es ih =>
    unfold scanned? kept
    by_cases he : p.admits maxId e = true
    · have hpush : (⟨.behind e, (p.push e).depth⟩ : Progress) = p.push e := rfl
      simp only [if_pos he, counted?_of_admits he, Option.bind_eq_bind, Option.bind_some, hpush,
        ih, Progress.after_cons]
      rfl
    · rw [if_neg he, if_neg he, ih]

/-- No parenthesis is closed in the tail, so each of those that are opened there is in the count. -/
theorem trimmed?_eq (p : Progress) (es : List Element) :
    trimmed? (p.after es).depth es.reverse =
      some ((withoutTail es).reverse, (p.after (withoutTail es)).depth) := by
  induction es using List.reverseRecOn with
  | nil => rfl
  | append_singleton es e ih =>
    rw [withoutTail_concat, List.reverse_append, List.reverse_singleton, List.singleton_append,
      Progress.after_append, trimmed?]
    by_cases he : isHanging e = true
    · rw [if_pos he, if_pos he, ← ih]
      rcases e with o | id
      · cases o with
        | closeParen => cases he
        | and | or | xor | not | openParen => rfl
      · cases he
    · rw [if_neg he, if_neg he]
      simp

/-- The count never has to fall below zero, and at the end it tells how many parentheses are still
to be closed. -/
theorem countedRepair?_eq (maxId : Nat) (es : List Element) :
    countedRepair? maxId es = some (repaired maxId es) := by
  unfold countedRepair?
  rw [scanned?_eq]
  simp only [Option.bind_eq_bind, Option.bind_some, trimmed?_eq, List.reverse_reverse]
  rfl

/-- Along a legal list the parentheses that are opened are those that are closed and those that
stay open. -/
theorem Legal.count_eq {p : Progress} {es : List Element} (h : Legal maxId p es) :
    p.depth + es.count (.op .openParen) = es.count (.op .closeParen) + (p.after es).depth := by
  induction es generalizing p with
  | nil => simp
  | cons e es ih =>
    obtain ⟨he, hes⟩ := h
    have hrest := ih hes
    rw [Progress.after_cons]
    rcases e with o | id
    · cases o with
      | openParen =>
        have hpush : (p.push (.op .openParen)).depth = p.depth + 1 := rfl
        simp only [List.count_cons_self, List.count_cons_of_ne, ne_eq, reduceCtorEq,
          Element.op.injEq, not_false_eq_true]
        omega
      | closeParen =>
        have hpush : (p.push (.op .closeParen)).depth = p.depth - 1 := rfl
        have hdepth : 0 < p.depth := by
          simp only [Progress.admits, Bool.and_eq_true, decide_eq_true_eq] at he
          exact he.2
        simp only [List.count_cons_self, List.count_cons_of_ne, ne_eq, reduceCtorEq,
          Element.op.injEq, not_false_eq_true]
        omega
      | and | or | xor | not => simpa [Progress.push] using hrest
    · simpa [Progress.push] using hrest

/-! ## Reports -/

/-- The repair warns of what it takes out, and the completion tells what it adds. None of this is
an error, because the check of the parentheses never fails. -/
theorem severity_ne_error {es : List Element} {context : String} {report : Report}
    (h : report ∈ normalizeReports maxId es context) : report.severity ≠ .error := by
  unfold normalizeReports repairReports at h
  simp only [repair_eq, List.append_nil, List.mem_append, List.mem_map] at h
  rcases h with ⟨_, _, rfl⟩ | h
  · simp [Report.warning]
  · split at h
    · cases h
    · rw [List.mem_singleton] at h
      subst h
      simp [Report.info]

/-! ## The repair -/

/-- The repair takes the elements from the left and keeps those with which a sentence can still
begin. Its result is what has stayed without the longest tail of operators that need an operand,
with one closing parenthesis for each that is left open. So it always succeeds and reports no error,
and the count of open parentheses never has to fall below zero, neither in the scan nor at the
tail. -/
theorem the_repair_keeps_what_begins_a_sentence (maxId : Nat) (es : List Element) :
    ∃ (body tail : List Element) (unclosed : Nat),
      (∀ stayed gone, Filters maxId es stayed gone ↔
        stayed = body ++ tail ∧ gone = refused maxId .start 0 es) ∧
      (∀ e ∈ tail, isHanging e = true) ∧
      (∀ more, more <:+ body ++ tail → (∀ e ∈ more, isHanging e = true) → more <:+ tail) ∧
      body.count (.op .openParen) = body.count (.op .closeParen) + unclosed ∧
      repair maxId es = .ok (body ++ List.replicate unclosed (.op .closeParen)) ∧
      countedRepair? maxId es = some (body ++ List.replicate unclosed (.op .closeParen)) ∧
      ∀ context, ∀ report ∈ normalizeReports maxId es context, report.severity ≠ .error := by
  obtain ⟨tail, htail, hhanging, hlongest⟩ := exists_tail (kept maxId .start es)
  have hcount := (legal_kept maxId .start es).withoutTail.count_eq
  refine ⟨withoutTail (kept maxId .start es), tail, openCount (withoutTail (kept maxId .start es)),
    ?_, hhanging, ?_, ?_, repair_eq maxId es, countedRepair?_eq maxId es, ?_⟩
  · intro stayed gone
    rw [← htail]
    exact filters_iff
  · rwa [← htail]
  · rw [openCount_eq, ← hcount]
    exact (Nat.zero_add _).symm
  · intro context report hreport
    exact severity_ne_error hreport

end Verdict.Formula
