-- When a comparison fails. Values that can be read fail for two reasons only: the
-- kinds can be ordered and no more, and the comparator asks for more; or two
-- durations are ordered and one of them has too many minutes.
import Verdict.Proofs.Compare.Coherence
import Verdict.Proofs.Decimal.Whole

namespace Verdict

variable {s t : String}

/-! ## Kinds that can only be ordered -/

/-- Values of the two kinds can be ordered, but not searched. The third kind is the one that a
refusal names. -/
inductive OnlyOrdered : Kind → Kind → Kind → Prop where
  | dates : OnlyOrdered .date .date .date
  | spans : OnlyOrdered .duration .duration .duration
  | spanAndNumber {k : Kind} (hk : k.isNumeric = true) : OnlyOrdered .duration k .duration
  | numberAndSpan {k : Kind} (hk : k.isNumeric = true) : OnlyOrdered k .duration .duration

theorem onlyOrdered_iff {a b kind : Kind} :
    OnlyOrdered a b kind ↔ (Manner.ofKinds a b).strictKind? = some kind := by
  constructor
  · rintro (_ | _ | hk | hk)
    · rfl
    · rfl
    · cases b <;> first | rfl | cases hk
    · cases a <;> first | rfl | cases hk
  · intro h
    cases a <;> cases b <;> cases h
    all_goals first
      | exact .dates
      | exact .spans
      | exact .spanAndNumber rfl
      | exact .numberAndSpan rfl

/-! ## Orderings -/

theorem exists_orderNumbers (hs : (Decimal.readFloat? s).isSome = true)
    (ht : (Decimal.readFloat? t).isSome = true) : ∃ o, orderNumbers s t = .ok o := by
  obtain ⟨x, hx⟩ := Option.isSome_iff_exists.mp hs
  obtain ⟨y, hy⟩ := Option.isSome_iff_exists.mp ht
  exact ⟨orderFloats x y, by rw [orderNumbers, hx, hy]⟩

theorem exists_orderWholes (hs : Kind.accepts s .int = true) (ht : Kind.accepts t .int = true) :
    ∃ o, orderWholes s t = .ok o := by
  obtain ⟨m, hm⟩ := Option.isSome_iff_exists.mp hs
  obtain ⟨n, hn⟩ := Option.isSome_iff_exists.mp ht
  exact ⟨compare m n, by rw [orderWholes, hm, hn]⟩

theorem exists_orderDates (hs : Kind.accepts s .date = true) (ht : Kind.accepts t .date = true) :
    ∃ o, orderDates s t = .ok o := by
  obtain ⟨m, hm⟩ := Option.isSome_iff_exists.mp hs
  obtain ⟨n, hn⟩ := Option.isSome_iff_exists.mp ht
  exact ⟨m.order n, by rw [orderDates, hm, hn]⟩

/-- A number in text can be read as a floating-point number, a whole one too. -/
theorem isSome_readFloat? {k : Kind} (hk : k.isNumeric = true) (hs : k.accepts s = true) :
    (Decimal.readFloat? s).isSome = true := by
  cases k with
  | int => exact Decimal.isSome_readFloat?_of_readInt? hs
  | float => exact hs
  | string | date | duration | field => cases hk

theorem isSome_amount? {k : Kind} (hk : k.isNumeric = true ∨ k = .duration)
    (hs : k.accepts s = true) : (amount? k s).isSome = true := by
  unfold amount?
  rcases hk with hk | rfl
  · have hne : k ≠ .duration := by
      rintro rfl
      cases hk
    rw [if_neg hne]
    exact isSome_readFloat? hk hs
  · rw [if_pos rfl, Option.isSome_map]
    exact hs

theorem exists_orderAmounts {j k : Kind} (hj : j.isNumeric = true ∨ j = .duration)
    (hk : k.isNumeric = true ∨ k = .duration) (hs : j.accepts s = true) (ht : k.accepts t = true) :
    ∃ o, orderAmounts j s k t = .ok o := by
  obtain ⟨x, hx⟩ := Option.isSome_iff_exists.mp (isSome_amount? hj hs)
  obtain ⟨y, hy⟩ := Option.isSome_iff_exists.mp (isSome_amount? hk ht)
  exact ⟨orderFloats x y, by rw [orderAmounts, hx, hy]⟩

/-- The text is a duration with more minutes than a value can hold. -/
def IsTooLong (text : String) : Prop :=
  ∃ span, Span.ofText? text = some span ∧ Text.inInt64 (span.amount * span.unit.size) = false

theorem Span.totalMinutes?_eq_none {span : Span} :
    span.totalMinutes? = none ↔ Text.inInt64 (span.amount * span.unit.size) = false := by
  unfold Span.totalMinutes? Span.inRange? Span.minutes
  split
  · rename_i h
    simp [h]
  · rename_i h
    simp [h]

theorem isTooLong_iff {span : Span} (h : Span.ofText? s = some span) :
    IsTooLong s ↔ span.totalMinutes? = none := by
  rw [Span.totalMinutes?_eq_none]
  constructor
  · rintro ⟨other, hother, hlong⟩
    rw [h] at hother
    cases hother
    exact hlong
  · exact fun hlong => ⟨span, h, hlong⟩

theorem orderSpans_eq_error_iff (hs : Kind.accepts s .duration = true)
    (ht : Kind.accepts t .duration = true) {fault : Fault} :
    orderSpans s t = .error fault ↔ (IsTooLong s ∨ IsTooLong t) ∧ fault = .spansTooLong s t := by
  obtain ⟨m, hm⟩ := Option.isSome_iff_exists.mp hs
  obtain ⟨n, hn⟩ := Option.isSome_iff_exists.mp ht
  rw [isTooLong_iff hm, isTooLong_iff hn]
  unfold orderSpans
  simp only [hm, hn]
  rcases m.totalMinutes? with _ | p
  · simp [eq_comm]
  · rcases n.totalMinutes? with _ | q
    · simp [eq_comm]
    · simp

/-- All but two durations have an ordering. -/
theorem exists_orderPresent {j k : Kind} (h : ¬ (j = .duration ∧ k = .duration))
    (hs : j.accepts s = true) (ht : k.accepts t = true) : ∃ o, orderPresent j s k t = .ok o := by
  cases j with
  | int =>
    cases k with
    | int => exact exists_orderWholes hs ht
    | float => exact exists_orderNumbers (isSome_readFloat? rfl hs) ht
    | duration => exact exists_orderAmounts (Or.inl rfl) (Or.inr rfl) hs ht
    | string | date | field => exact ⟨orderTexts s t, rfl⟩
  | float =>
    cases k with
    | int => exact exists_orderNumbers hs (isSome_readFloat? rfl ht)
    | float => exact exists_orderNumbers hs ht
    | duration => exact exists_orderAmounts (Or.inl rfl) (Or.inr rfl) hs ht
    | string | date | field => exact ⟨orderTexts s t, rfl⟩
  | date =>
    cases k with
    | date => exact exists_orderDates hs ht
    | string | int | float | duration | field => exact ⟨orderTexts s t, rfl⟩
  | duration =>
    cases k with
    | int => exact exists_orderAmounts (Or.inr rfl) (Or.inl rfl) hs ht
    | float => exact exists_orderAmounts (Or.inr rfl) (Or.inl rfl) hs ht
    | duration => exact absurd ⟨rfl, rfl⟩ h
    | string | date | field => exact ⟨orderTexts s t, rfl⟩
  | string | field => exact ⟨orderTexts s t, rfl⟩

/-- Only durations with too many minutes have no ordering. -/
theorem orderPresent_eq_error_iff {j k : Kind} (hs : j.accepts s = true) (ht : k.accepts t = true)
    {fault : Fault} : orderPresent j s k t = .error fault ↔
      (j = .duration ∧ k = .duration) ∧ (IsTooLong s ∨ IsTooLong t) ∧
        fault = .spansTooLong s t := by
  by_cases hspans : j = .duration ∧ k = .duration
  · obtain ⟨rfl, rfl⟩ := hspans
    rw [and_iff_right ⟨rfl, rfl⟩]
    exact orderSpans_eq_error_iff hs ht
  · obtain ⟨o, ho⟩ := exists_orderPresent hspans hs ht
    rw [ho]
    exact iff_of_false (by simp) fun h => hspans h.1

namespace TypedValue

variable {a b : TypedValue} {c : Comparator} {fault : Fault}

/-! ## Comparisons -/

/-- The text of the value, if there is one, can be read as a value of its kind. -/
def IsReadable (v : TypedValue) : Prop := ∀ text, v.value = some text → v.kind.accepts text = true

/-- The reasons why a comparison fails. -/
inductive Refuses (a : TypedValue) (c : Comparator) (b : TypedValue) : Fault → Prop where
  /-- The kinds can only be ordered, and the comparator asks for no ordering. -/
  | unsuited {s t : String} {kind : Kind} (ha : a.value = some s) (hb : b.value = some t)
      (hkinds : OnlyOrdered a.kind b.kind kind) (hc : c.isRelational = false) (hcopy : c ≠ .copy) :
      Refuses a c b (.unsuitedComparator c kind)
  /-- The comparator asks for the ordering of two durations, and one of them is too long. -/
  | tooLong {s t : String} (ha : a.value = some s) (hb : b.value = some t)
      (hkinds : a.kind = .duration ∧ b.kind = .duration) (hc : c.isRelational = true)
      (hlong : IsTooLong s ∨ IsTooLong t) : Refuses a c b (.spansTooLong s t)

theorem Refuses.present (h : a.Refuses c b fault) : ∃ s t, a.value = some s ∧ b.value = some t := by
  cases h with
  | unsuited ha hb | tooLong ha hb => exact ⟨_, _, ha, hb⟩

theorem Refuses.ne_copy (h : a.Refuses c b fault) : c ≠ .copy := by
  cases h with
  | unsuited ha hb hkinds hc hcopy => exact hcopy
  | tooLong ha hb hkinds hc hlong =>
    rintro rfl
    cases hc

/-- A comparator that does not suit is a fault of its own group. -/
theorem Refuses.kind_eq (h : a.Refuses c b fault) :
    fault.kind = if c.isRelational then .resolution else .comparator := by
  cases h with
  | unsuited ha hb hkinds hc hcopy =>
    rw [hc]
    rfl
  | tooLong ha hb hkinds hc hlong =>
    rw [hc]
    rfl

theorem compare_copy (a b : TypedValue) : a.compare .copy b = .ok true := if_pos rfl

theorem compare_of_not_relational (ha : a.value = some s) (hb : b.value = some t)
    (hc : c.isRelational = false) (hcopy : c ≠ .copy) :
    a.compare c b = match (Manner.ofKinds a.kind b.kind).strictKind? with
      | some kind => .error (.unsuitedComparator c kind)
      | none => .ok (testTexts c s t) := by
  unfold TypedValue.compare
  rw [if_neg hcopy, ha, hb]
  show comparePresent c a.kind s b.kind t = _
  exact if_neg (Bool.eq_false_iff.mp hc)

theorem compare_eq_error_iff_of_relational (ha : a.value = some s) (hb : b.value = some t)
    (hs : a.kind.accepts s = true) (ht : b.kind.accepts t = true) (hc : c.isRelational = true) :
    a.compare c b = .error fault ↔ a.Refuses c b fault := by
  have horder : a.compare c b = .error fault ↔ orderPresent a.kind s b.kind t = .error fault := by
    rw [compare_of_present ha hb hc]
    cases orderPresent a.kind s b.kind t <;> simp [Except.map]
  rw [horder, orderPresent_eq_error_iff hs ht]
  constructor
  · rintro ⟨hkinds, hlong, rfl⟩
    exact .tooLong ha hb hkinds hc hlong
  · rintro (⟨-, -, -, hother, -⟩ | ⟨ha', hb', hkinds, -, hlong⟩)
    · rw [hc] at hother
      cases hother
    · rw [ha] at ha'
      rw [hb] at hb'
      cases ha'
      cases hb'
      exact ⟨hkinds, hlong, rfl⟩

theorem compare_eq_error_iff_of_not_relational (ha : a.value = some s) (hb : b.value = some t)
    (hc : c.isRelational = false) (hcopy : c ≠ .copy) :
    a.compare c b = .error fault ↔ a.Refuses c b fault := by
  have hstrict : a.compare c b = .error fault ↔
      ∃ kind, OnlyOrdered a.kind b.kind kind ∧ fault = .unsuitedComparator c kind := by
    rw [compare_of_not_relational ha hb hc hcopy]
    simp only [onlyOrdered_iff]
    cases (Manner.ofKinds a.kind b.kind).strictKind? <;> simp [eq_comm]
  rw [hstrict]
  constructor
  · rintro ⟨kind, hkinds, rfl⟩
    exact .unsuited ha hb hkinds hc hcopy
  · rintro (⟨-, -, hkinds, -, -⟩ | ⟨-, -, -, hother, -⟩)
    · exact ⟨_, hkinds, rfl⟩
    · rw [hc] at hother
      cases hother

/-- Of two values whose texts can be read as their kinds, a comparison fails exactly for one of the
two reasons, and with the fault of that reason. In all other cases, and always if one of the values
is absent, it answers. -/
theorem a_comparison_fails_for_two_reasons (ha : a.IsReadable) (hb : b.IsReadable)
    (c : Comparator) :
    (∀ fault, a.compare c b = .error fault ↔ a.Refuses c b fault) ∧
      (∀ fault, a.compare c b = .error fault →
        fault.kind = if c.isRelational then .resolution else .comparator) ∧
      ((∀ fault, ¬ a.Refuses c b fault) → ∃ t, a.compare c b = .ok t) ∧
      (a.isAbsent = true ∨ b.isAbsent = true → ∃ t, a.compare c b = .ok t) := by
  have hiff : ∀ fault, a.compare c b = .error fault ↔ a.Refuses c b fault := by
    intro fault
    by_cases habsent : a.isAbsent = true ∨ b.isAbsent = true
    · rw [compare_of_absent habsent]
      refine iff_of_false (by simp) fun h => ?_
      obtain ⟨s, t, hs, ht⟩ := h.present
      simp [isAbsent, hs, ht] at habsent
    · rw [not_or, Bool.not_eq_true, Bool.not_eq_true] at habsent
      obtain ⟨s, hs⟩ := isAbsent_eq_false.mp habsent.1
      obtain ⟨t, ht⟩ := isAbsent_eq_false.mp habsent.2
      by_cases hcopy : c = .copy
      · rw [hcopy, compare_copy]
        exact iff_of_false (by simp) fun h => h.ne_copy rfl
      · rcases hc : c.isRelational with _ | _
        · exact compare_eq_error_iff_of_not_relational hs ht hc hcopy
        · exact compare_eq_error_iff_of_relational hs ht (ha s hs) (hb t ht) hc
  refine ⟨hiff, fun fault h => ((hiff fault).mp h).kind_eq, fun h => ?_, fun h => ?_⟩
  · rcases hanswer : a.compare c b with fault | t
    · exact absurd ((hiff fault).mp hanswer) (h fault)
    · exact ⟨t, rfl⟩
  · exact ⟨_, compare_of_absent h c⟩

/-- The minutes of so many days are too many for a comparison, and no text is looked for in a
duration. Beside an absent value there is an answer. -/
theorem too_many_days_have_no_ordering :
    let days := present "9223372036854775807 days" .duration
    let hour := present "1 hour" .duration
    days.IsReadable ∧ hour.IsReadable ∧
      days.compare .gt hour =
        .error (.spansTooLong "9223372036854775807 days" "1 hour") ∧
      days.compare .contains hour = .error (.unsuitedComparator .contains .duration) ∧
      ∃ t, days.compare .gt (absent .duration) = .ok t := by
  intro days hour
  have hdays : days.IsReadable := by
    intro text h
    cases h
    decide +kernel
  have hhour : hour.IsReadable := by
    intro text h
    cases h
    decide +kernel
  have hnone : (absent .duration).IsReadable := by
    intro text h
    cases h
  have hlong : IsTooLong "9223372036854775807 days" :=
    ⟨⟨9223372036854775807, .days⟩, by decide +kernel, by decide⟩
  obtain ⟨hgreater, -⟩ := a_comparison_fails_for_two_reasons hdays hhour .gt
  obtain ⟨hcontains, -⟩ := a_comparison_fails_for_two_reasons hdays hhour .contains
  obtain ⟨-, -, -, habsent⟩ := a_comparison_fails_for_two_reasons hdays hnone .gt
  refine ⟨hdays, hhour, ?_, ?_, habsent (Or.inr rfl)⟩
  · exact (hgreater _).mpr (.tooLong rfl rfl ⟨rfl, rfl⟩ rfl (Or.inl hlong))
  · exact (hcontains _).mpr (.unsuited rfl rfl .spans rfl (by decide))

end TypedValue

end Verdict
