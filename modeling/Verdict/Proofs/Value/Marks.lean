-- The forms of dates, durations and numbers. Each of them begins with a number, and
-- the character behind that number tells them apart.
import Mathlib.Data.List.DropRight
import Verdict.Proofs.Calendar.RoundTrip
import Verdict.Proofs.Decimal.Whole
import Verdict.Proofs.Text.Gaps

namespace Verdict

namespace Text

/-! ## The number that a text begins with -/

/-- The text without the sign that it may begin with. -/
def unsigned : List Char → List Char
  | '+' :: rest => rest
  | '-' :: rest => rest
  | cs => cs

/-- What follows the number that a text begins with: blanks, a sign and digits, each of them if
they are there. -/
def behindNumber (cs : List Char) : List Char := (unsigned (trimStart cs)).dropWhile Char.isDigit

/-- A number may begin with one of these. -/
def signs : List (List Char) := [[], ['+'], ['-']]

/-- Digits stand in front of the rest. -/
def DigitsBefore (rest cs : List Char) : Prop :=
  ∃ digits, digits ≠ [] ∧ (∀ c ∈ digits, c.isDigit = true) ∧ cs = digits ++ rest

/-- A number stands in front of the rest. -/
def NumberBefore (rest cs : List Char) : Prop :=
  ∃ sign ∈ signs, ∃ unsigned, DigitsBefore rest unsigned ∧ cs = sign ++ unsigned

theorem DigitsBefore.number {rest cs : List Char} (h : DigitsBefore rest cs) :
    NumberBefore rest cs := ⟨[], by decide, cs, h, rfl⟩

theorem unsigned_of_ne {c : Char} (hminus : c ≠ '-') (hplus : c ≠ '+') (cs : List Char) :
    unsigned (c :: cs) = c :: cs := by
  unfold unsigned
  split
  · rename_i heq
    cases heq
    exact absurd rfl hplus
  · rename_i heq
    cases heq
    exact absurd rfl hminus
  · rfl

/-- What follows a number is a part of the text. -/
theorem mem_of_mem_behindNumber {c : Char} {cs : List Char} (h : c ∈ behindNumber cs) : c ∈ cs := by
  have hunsigned : ∀ ds : List Char, c ∈ unsigned ds → c ∈ ds := by
    intro ds hc
    unfold unsigned at hc
    split at hc
    · exact List.mem_cons_of_mem _ hc
    · exact List.mem_cons_of_mem _ hc
    · exact hc
  exact (List.dropWhile_subset isBlank) (hunsigned _ (List.dropWhile_subset Char.isDigit h))

theorem behindNumber_trimStart (cs : List Char) :
    behindNumber (trimStart cs) = behindNumber cs := by
  unfold behindNumber trimStart
  rw [List.dropWhile_idempotent]

theorem NumberBefore.head? {mark : Char} {rest cs : List Char}
    (h : NumberBefore (mark :: rest) cs) (hmark : mark.isDigit = false) :
    (behindNumber cs).head? = some mark := by
  obtain ⟨sign, hsign, -, ⟨digits, hne, hdigits, rfl⟩, rfl⟩ := h
  obtain ⟨d, ds, rfl⟩ := List.exists_cons_of_ne_nil hne
  have hdigit := hdigits d List.mem_cons_self
  obtain ⟨hminus, hplus⟩ := ne_sign_of_isDigit hdigit
  have hunsigned : unsigned (trimStart (sign ++ ((d :: ds) ++ mark :: rest))) =
      (d :: ds) ++ mark :: rest := by
    unfold signs at hsign
    simp only [List.mem_cons, List.not_mem_nil, or_false] at hsign
    rcases hsign with rfl | rfl | rfl
    · rw [List.nil_append, List.cons_append,
        trimStart_cons_of_not_blank (isBlank_of_isDigit hdigit), unsigned_of_ne hminus hplus]
    · rw [List.singleton_append, trimStart_cons_of_not_blank (by decide)]
      rfl
    · rw [List.singleton_append, trimStart_cons_of_not_blank (by decide)]
      rfl
  unfold behindNumber
  rw [hunsigned, dropWhile_run hdigits (by simpa using hmark), List.head?_cons]

/-- Blanks are taken away up to the last character that is none. -/
theorem trimEnd_append_cons {c : Char} (h : isBlank c = false) (as bs : List Char) :
    trimEnd (as ++ c :: bs) = as ++ c :: trimEnd bs := by
  induction bs using List.reverseRecOn with
  | nil => rw [trimEnd_concat, h, if_neg Bool.false_ne_true]; rfl
  | append_singleton bs d ih =>
    have hsplit : as ++ c :: (bs ++ [d]) = (as ++ c :: bs) ++ [d] := by simp
    rw [hsplit, trimEnd_concat, trimEnd_concat, ih]
    split
    · rfl
    · exact hsplit.symm

end Text

/-! ## Dates -/

namespace Calendar

open Text (DigitsBefore NumberBefore behindNumber trimStart)

variable {p q : Parts} {cs rest : List Char} {item : Item} {items : List Item}

theorem before_of_number? {most n : Nat} (h : number? most cs = some (n, rest)) :
    DigitsBefore rest cs := by
  unfold number? at h
  obtain ⟨k, hk, heq⟩ := Option.map_eq_some_iff.mp h
  cases heq
  obtain ⟨hne, hdigits, -⟩ := Decimal.isDigit_of_readDigits? hk
  have hprefix : (cs.take most).takeWhile Char.isDigit <+: cs :=
    (List.takeWhile_prefix _).trans (List.take_prefix _ _)
  refine ⟨_, hne, hdigits, ?_⟩
  conv_lhs => rw [← List.take_append_drop ((cs.take most).takeWhile Char.isDigit).length cs]
  rw [← List.prefix_iff_eq_take.mp hprefix]

theorem before_of_exactly? {count n : Nat} (h : exactly? count cs = some (n, rest)) :
    DigitsBefore rest cs := by
  unfold exactly? at h
  simp only at h
  split at h
  · obtain ⟨k, hk, heq⟩ := Option.map_eq_some_iff.mp h
    cases heq
    obtain ⟨hne, hdigits, -⟩ := Decimal.isDigit_of_readDigits? hk
    exact ⟨_, hne, hdigits, (List.take_append_drop count cs).symm⟩
  · cases h

theorem before_of_year? {year : Int} (h : year? cs = some (year, rest)) :
    NumberBefore rest cs := by
  unfold year? at h
  split at h
  all_goals
    obtain ⟨⟨n, rest⟩, hn, heq⟩ := Option.map_eq_some_iff.mp h
    cases heq
    have hdigits := before_of_number? hn
  · exact ⟨['-'], by decide, _, hdigits, rfl⟩
  · exact ⟨['+'], by decide, _, hdigits, rfl⟩
  · exact hdigits.number

theorem eq_cons_of_after? {c : Char} (h : after? c cs = some rest) : cs = c :: rest := by
  rcases cs with _ | ⟨d, cs⟩
  · cases h
  · rw [after?] at h
    split at h
    · rename_i hdc
      cases h
      rw [hdc]
    · cases h

theorem exists_of_readItems? (h : readItems? p cs (item :: items) = some q) :
    ∃ r rest, item.read? p cs = some (r, rest) ∧ readItems? r rest items = some q := by
  rw [readItems?] at h
  split at h
  · exact ⟨_, _, ‹_›, h⟩
  · cases h

/-- The mark behind an item that is a number. -/
theorem head?_of_readItems? {mark : Char} (hmark : mark.isDigit = false)
    (hitem : ∀ r rest, item.read? p cs = some (r, rest) → NumberBefore rest (trimStart cs))
    (h : readItems? p cs (item :: .mark mark :: items) = some q) :
    (behindNumber cs).head? = some mark := by
  obtain ⟨r, rest, hread, h⟩ := exists_of_readItems? h
  obtain ⟨r, behind, hafter, -⟩ := exists_of_readItems? h
  rw [Item.read?] at hafter
  obtain ⟨behind, hbehind, -⟩ := Option.map_eq_some_iff.mp hafter
  have hnumber := hitem _ _ hread
  rw [eq_cons_of_after? hbehind] at hnumber
  rw [← Text.behindNumber_trimStart]
  exact hnumber.head? hmark

theorem head?_of_year (h : readItems? p cs (.year :: .mark '-' :: items) = some q) :
    (behindNumber cs).head? = some '-' := by
  refine head?_of_readItems? rfl (fun r rest hread => ?_) h
  rw [Item.read?] at hread
  obtain ⟨⟨year, rest⟩, hyear, heq⟩ := Option.map_eq_some_iff.mp hread
  cases heq
  exact before_of_year? hyear

theorem head?_of_month (h : readItems? p cs (.month :: .mark '/' :: items) = some q) :
    (behindNumber cs).head? = some '/' := by
  refine head?_of_readItems? rfl (fun r rest hread => ?_) h
  rw [Item.read?] at hread
  obtain ⟨⟨month, rest⟩, hmonth, heq⟩ := Option.map_eq_some_iff.mp hread
  cases heq
  exact (before_of_number? hmonth).number

theorem begins_of_mem_forms {form : List Item} (h : form ∈ forms) :
    (∃ items, form = .year :: .mark '-' :: items) ∨
      ∃ items, form = .month :: .mark '/' :: items := by
  unfold forms dateItems at h
  simp only [List.mem_cons, List.not_mem_nil, or_false] at h
  rcases h with rfl | rfl | rfl | rfl | rfl
  · exact Or.inl ⟨_, rfl⟩
  · exact Or.inl ⟨_, rfl⟩
  · exact Or.inl ⟨_, rfl⟩
  · exact Or.inl ⟨_, rfl⟩
  · exact Or.inr ⟨_, rfl⟩

theorem head?_of_readFixed? {m : Moment} (h : readFixed? cs = some m) :
    (behindNumber cs).head? = some '-' := by
  unfold readFixed? at h
  obtain ⟨⟨year, rest⟩, hyear, h⟩ := Option.bind_eq_some_iff.mp h
  obtain ⟨behind, hafter, -⟩ := Option.bind_eq_some_iff.mp h
  have hdigits := before_of_exactly? hyear
  rw [eq_cons_of_after? hafter] at hdigits
  exact hdigits.number.head? rfl

/-- A hyphen or a slash stands behind the first number of a date. -/
theorem head?_of_read? {m : Moment} (h : read? cs = some m) :
    (behindNumber cs).head? = some '-' ∨ (behindNumber cs).head? = some '/' := by
  unfold read? at h
  split at h
  · exact Or.inl (head?_of_readFixed? ‹_›)
  · obtain ⟨form, hform, hread⟩ := List.exists_of_findSome?_eq_some h
    obtain ⟨parts, hparts, -⟩ := Option.bind_eq_some_iff.mp hread
    rcases begins_of_mem_forms hform with ⟨items, rfl⟩ | ⟨items, rfl⟩
    · exact Or.inl (head?_of_year hparts)
    · exact Or.inr (head?_of_month hparts)

end Calendar

/-! ## Durations -/

namespace Span

open Text (NumberBefore behindNumber isBlank signs trim trimStart)

variable {cs : List Char} {s : Span}

theorem exists_of_read? (h : read? cs = some s) :
    ∃ blank gap initial word, isBlank blank = true ∧ trimStart gap = initial :: word ∧
      NumberBefore (blank :: gap) (trimStart cs) := by
  unfold read? at h
  extract_lets ts at h
  have hcs : trimStart cs = ts := rfl
  clear_value ts
  split at h
  rename_i sign unsigned hpair
  have hsign : sign ∈ signs ∧ ts = sign ++ unsigned := by
    split at hpair
    all_goals
      cases hpair
      exact ⟨by decide, rfl⟩
  simp only at h
  split at h
  · cases h
  rename_i blank gap hrest
  split at h
  · cases h
  rename_i hform
  obtain ⟨hdigits, hblank⟩ := not_or.mp hform
  rw [Bool.not_eq_false] at hblank
  rw [hrest, Text.trimStart_cons_of_blank hblank] at h
  split at h
  · cases h
  rename_i initial word hword
  refine ⟨blank, gap, initial, word, hblank, hword, sign, hsign.1, unsigned, ?_, ?_⟩
  · exact ⟨_, hdigits, fun _ hc => List.mem_takeWhile_imp hc,
      by rw [← hrest, List.takeWhile_append_dropWhile]⟩
  · rw [hcs, hsign.2]

/-- A blank stands behind the number of a duration, and as the unit follows, also if no blanks
stand at the end of the text. -/
theorem head?_of_read? (h : read? cs = some s) :
    ∃ blank, isBlank blank = true ∧ (behindNumber (trim cs)).head? = some blank := by
  obtain ⟨blank, gap, initial, word, hblank, hgap, sign, hsign, -, ⟨digits, hne, hdigits, rfl⟩,
    hcs⟩ := exists_of_read? h
  have hinitial : isBlank initial = false := by
    have hfirst := List.head?_dropWhile_not isBlank gap
    rw [show gap.dropWhile isBlank = initial :: word from hgap] at hfirst
    exact hfirst
  have hunit : gap = gap.takeWhile isBlank ++ initial :: word := by
    rw [← hgap]
    exact List.takeWhile_append_dropWhile.symm
  have hdigit : blank.isDigit = false := by
    by_contra hdigit
    rw [Bool.not_eq_false] at hdigit
    rw [Text.isBlank_of_isDigit hdigit] at hblank
    cases hblank
  have htrim : trim cs =
      sign ++ (digits ++ blank :: (gap.takeWhile isBlank ++ initial :: Text.trimEnd word)) := by
    have hend := Text.trimEnd_append_cons hinitial
      (sign ++ digits ++ blank :: gap.takeWhile isBlank) word
    rw [List.append_assoc, List.append_assoc, List.cons_append, ← hunit] at hend
    unfold trim
    rw [hcs, hend]
    simp only [List.append_assoc, List.cons_append]
  have hnumber : NumberBefore _ (trim cs) := ⟨sign, hsign, _, ⟨digits, hne, hdigits, rfl⟩, htrim⟩
  exact ⟨blank, hblank, hnumber.head? hdigit⟩

end Span

/-! ## Numbers -/

namespace Decimal

open Text (behindNumber)

/-- Behind the digits of a numeral stands nothing, the point or the mark of the exponent. -/
def numeralMarks : List (Option Char) := [none, some '.', some 'e', some 'E']

theorem head?_of_readTail? {cs : List Char} {n : Int} (h : readTail? cs = some n) :
    cs.head? ∈ numeralMarks := by
  unfold readTail? at h
  split at h
  · exact show none ∈ numeralMarks by decide
  · exact show some 'e' ∈ numeralMarks by decide
  · exact show some 'E' ∈ numeralMarks by decide
  · cases h

/-- A numeral without a sign begins with a digit or with the point. -/
theorem exists_of_readUnsigned? {negative : Bool} {cs : List Char} {n : Numeral}
    (h : readUnsigned? negative cs = some n) :
    (cs.dropWhile Char.isDigit).head? ∈ numeralMarks ∧
      ∃ c rest, cs = c :: rest ∧ (c.isDigit = true ∨ c = '.') := by
  have hcs : cs = cs.takeWhile Char.isDigit ++ cs.dropWhile Char.isDigit :=
    List.takeWhile_append_dropWhile.symm
  have hdigits : ∀ c ∈ cs.takeWhile Char.isDigit, c.isDigit = true :=
    fun _ hc => List.mem_takeWhile_imp hc
  unfold readUnsigned? at h
  extract_lets whole rest at h
  change ∀ c ∈ whole, c.isDigit = true at hdigits
  change cs = whole ++ rest at hcs
  change rest.head? ∈ numeralMarks ∧ _
  clear_value whole rest
  split at h
  rename_i fraction tail hpair
  split at h
  · cases h
  rename_i hform
  obtain ⟨exponent, hexponent, -⟩ := Option.map_eq_some_iff.mp h
  have hmark : rest.head? ∈ numeralMarks ∧ (whole = [] → rest.head? = some '.') := by
    split at hpair
    · cases hpair
      exact ⟨show some '.' ∈ numeralMarks by decide, fun _ => rfl⟩
    · cases hpair
      exact ⟨head?_of_readTail? hexponent, fun hwhole => absurd ⟨hwhole, rfl⟩ hform⟩
  refine ⟨hmark.1, ?_⟩
  rcases whole with _ | ⟨c, whole⟩
  · obtain ⟨after, rfl⟩ := List.head?_eq_some_iff.mp (hmark.2 rfl)
    exact ⟨'.', after, hcs, Or.inr rfl⟩
  · exact ⟨c, _, hcs, Or.inl (hdigits c List.mem_cons_self)⟩

/-- The mark of a numeral stands behind the number that it begins with. -/
theorem head?_of_readNumeral? {cs : List Char} {n : Numeral} (h : readNumeral? cs = some n) :
    (behindNumber cs).head? ∈ numeralMarks := by
  unfold readNumeral? at h
  split at h
  · exact (exists_of_readUnsigned? h).1
  · exact (exists_of_readUnsigned? h).1
  · obtain ⟨hmark, c, rest, rfl, hc⟩ := exists_of_readUnsigned? h
    have hblank : Text.isBlank c = false := by
      rcases hc with hc | rfl
      · exact Text.isBlank_of_isDigit hc
      · decide
    have hsign : c ≠ '-' ∧ c ≠ '+' := by
      rcases hc with hc | rfl
      · exact Text.ne_sign_of_isDigit hc
      · decide
    unfold behindNumber
    rw [Text.trimStart_cons_of_not_blank hblank, Text.unsigned_of_ne hsign.1 hsign.2]
    exact hmark

end Decimal

end Verdict
