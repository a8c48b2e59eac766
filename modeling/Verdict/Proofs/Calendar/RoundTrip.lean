-- Moments in text. The text of a moment is read as the moment itself without
-- the fraction of its second. A leap second at the end of a minute stays one, and
-- no text stands for any other.
import Verdict.Calendar.Printing
import Verdict.Calendar.Reading
import Verdict.Proofs.Calendar.Range

namespace Verdict

/-- The moment without the fraction of its second. -/
def Moment.wholeSecond (m : Moment) : Moment where
  date := m.date
  second := m.second
  nano := m.nano / nanos * nanos
  valid := by
    have h := isTime_iff.mp m.valid
    refine isTime_iff.mpr ⟨h.1, ?_⟩
    unfold nanos at h ⊢
    omega

/-- A leap second in the middle of a minute. -/
def Moment.IsInnerLeap (m : Moment) : Prop := m.isLeapSecond = true ∧ m.second % 60 ≠ 59

instance (m : Moment) : Decidable m.IsInnerLeap := inferInstanceAs (Decidable (_ ∧ _))

/-- The moment that the text of a moment shows: the fraction of the second is not in it, and a leap
second in the middle of a minute looks like the second after it. -/
def Moment.shown (m : Moment) : Moment :=
  if h : m.IsInnerLeap then
    { date := m.date, second := m.second + 1, nano := 0,
      valid := isTime_iff.mpr ⟨by
        have hsecond := (isTime_iff.mp m.valid).1
        have hinner := h.2
        unfold secondsPerDay at hsecond ⊢
        omega, by decide⟩ }
  else m.wholeSecond

theorem Moment.not_isInnerLeap_iff {m : Moment} :
    ¬ m.IsInnerLeap ↔ m.isLeapSecond = false ∨ m.second % 60 = 59 := by
  unfold IsInnerLeap
  rw [not_and_or, not_not, Bool.not_eq_true]

theorem Moment.shown_eq {m : Moment} (h : m.isLeapSecond = false ∨ m.second % 60 = 59) :
    m.shown = m.wholeSecond := dif_neg (not_isInnerLeap_iff.mpr h)

namespace Calendar

open Text (padded)

/-! ## Numbers -/

theorem number?_append {most : Nat} {digits rest : List Char} {n : Nat}
    (hlength : digits.length ≤ most) (hdigits : ∀ c ∈ digits, c.isDigit = true)
    (hrest : digits.length = most ∨ ∀ c ∈ rest.head?, c.isDigit = false)
    (hn : Text.readDigits? digits = some n) : number? most (digits ++ rest) = some (n, rest) := by
  have htake : ((digits ++ rest).take most).takeWhile Char.isDigit = digits := by
    rw [List.take_append, List.take_of_length_le hlength]
    refine Text.takeWhile_run hdigits fun c hc => ?_
    rcases hrest with heq | hrest
    · rw [heq, Nat.sub_self] at hc
      cases hc
    · rw [List.head?_take] at hc
      split at hc
      · cases hc
      · exact hrest c hc
  unfold number?
  simp only
  rw [htake, hn, Option.map_some, List.drop_left]

/-- A number in full width is read up to its last digit. -/
theorem number?_padded {width n : Nat} (hwidth : 0 < width) (h : n < 10 ^ width)
    (rest : List Char) : number? width (padded width n ++ rest) = some (n, rest) :=
  number?_append (Nat.le_of_eq (Text.length_padded hwidth h))
    (fun _ hc => Text.isDigit_of_mem_padded hc) (Or.inl (Text.length_padded hwidth h))
    (Text.readDigits?_padded hwidth)

theorem exactly?_padded {width n : Nat} (hwidth : 0 < width) (h : n < 10 ^ width)
    (rest : List Char) : exactly? width (padded width n ++ rest) = some (n, rest) := by
  have hlength := Text.length_padded hwidth h
  unfold exactly?
  simp only
  rw [List.take_left' hlength, if_pos hlength, Text.readDigits?_padded hwidth, Option.map_some,
    List.drop_left' hlength]

theorem exists_padded_eq_cons {width : Nat} (hwidth : 0 < width) (n : Nat) :
    ∃ c cs, padded width n = c :: cs ∧ c.isDigit = true := by
  rcases h : padded width n with _ | ⟨c, cs⟩
  · have hlength := Text.le_length_padded width n
    rw [h, List.length_nil] at hlength
    omega
  · have hmem : c ∈ padded width n := by simp [h]
    exact ⟨c, cs, rfl, Text.isDigit_of_mem_padded hmem⟩

theorem trimStart_padded {width : Nat} (hwidth : 0 < width) (n : Nat) (rest : List Char) :
    Text.trimStart (padded width n ++ rest) = padded width n ++ rest := by
  obtain ⟨c, cs, hcs, hdigit⟩ := exists_padded_eq_cons hwidth n
  rw [hcs, List.cons_append, Text.trimStart_cons_of_not_blank (Text.isBlank_of_isDigit hdigit)]

/-- Of a year with a sign all digits are read, however many there are. -/
theorem number?_year (n : Nat) (rest : List Char) :
    number? (padded 4 n ++ '-' :: rest).length (padded 4 n ++ '-' :: rest) =
      some (n, '-' :: rest) := by
  refine number?_append (by simp) (fun _ hc => Text.isDigit_of_mem_padded hc) (Or.inr ?_)
    (Text.readDigits?_padded (by decide))
  intro c hc
  cases hc
  rfl

/-- A year is read up to the hyphen after it. -/
theorem year?_yearDigits (year : Int) (rest : List Char) :
    year? (yearDigits year ++ '-' :: rest) = some (year, '-' :: rest) := by
  unfold yearDigits
  split
  · rename_i hyear
    have hsmall : year.toNat < 10 ^ 4 := by omega
    obtain ⟨c, cs, hcs, hdigit⟩ := exists_padded_eq_cons (show 0 < 4 by decide) year.toNat
    obtain ⟨hminus, hplus⟩ := Text.ne_sign_of_isDigit hdigit
    have hread := number?_padded (by decide) hsmall ('-' :: rest)
    rw [hcs, List.cons_append] at hread ⊢
    unfold year?
    split
    · rename_i heq
      cases heq
      exact absurd rfl hminus
    · rename_i heq
      cases heq
      exact absurd rfl hplus
    · rw [hread, Option.map_some]
      simp only [Int.toNat_of_nonneg hyear.1]
  · split
    · rw [List.cons_append, year?, number?_year, Option.map_some]
      simp only [Option.some.injEq, Prod.mk.injEq, and_true]
      omega
    · rw [List.cons_append, year?, number?_year, Option.map_some]
      simp only [Option.some.injEq, Prod.mk.injEq, and_true]
      omega

theorem trimStart_yearDigits (year : Int) (rest : List Char) :
    Text.trimStart (yearDigits year ++ rest) = yearDigits year ++ rest := by
  unfold yearDigits
  split
  · exact trimStart_padded (by decide) _ _
  · refine Text.trimStart_cons_of_not_blank ?_
    split <;> decide

/-! ## Forms -/

theorem date_bounds (d : Date) : d.month < 10 ^ 2 ∧ d.day < 10 ^ 2 := by
  obtain ⟨-, -, -, hmonth, -, hday⟩ := isDate_iff.mp d.valid
  have hlength := monthLength_le d.year d.month
  omega

theorem readItems?_cons {p q : Parts} {cs rest : List Char} {item : Item} {items : List Item}
    (h : item.read? p cs = some (q, rest)) :
    readItems? p cs (item :: items) = readItems? q rest items := by
  rw [readItems?, h]

theorem readItems?_mark (p : Parts) (c : Char) (rest : List Char) (items : List Item) :
    readItems? p (c :: rest) (.mark c :: items) = readItems? p rest items := by
  refine readItems?_cons ?_
  rw [Item.read?, after?, if_pos rfl, Option.map_some]

/-- A number of two digits is put in its place. -/
theorem readItems?_twoDigits {item : Item} (put : Parts → Nat → Parts)
    (hitem : ∀ p cs, item.read? p cs =
      (number? 2 (Text.trimStart cs)).map fun r => (put p r.1, r.2))
    {n : Nat} (hn : n < 10 ^ 2) (p : Parts) (rest : List Char) (items : List Item) :
    readItems? p (padded 2 n ++ rest) (item :: items) = readItems? (put p n) rest items := by
  refine readItems?_cons ?_
  rw [hitem, trimStart_padded (by decide), number?_padded (by decide) hn, Option.map_some]

theorem readItems?_year (p : Parts) (year : Int) (rest : List Char) (items : List Item) :
    readItems? p (yearDigits year ++ '-' :: rest) (.year :: items) =
      readItems? { p with year := year } ('-' :: rest) items := by
  refine readItems?_cons ?_
  rw [Item.read?, trimStart_yearDigits, year?_yearDigits, Option.map_some]

/-- The date of a text is read first, whatever the form says of the rest. -/
theorem readItems?_date (d : Date) (rest : List Char) (items : List Item) :
    readItems? {} (d.digits ++ rest) (dateItems ++ items) =
      readItems? { year := d.year, month := d.month, day := d.day } rest items := by
  obtain ⟨hmonth, hday⟩ := date_bounds d
  unfold Date.digits dateItems
  simp only [List.append_assoc, List.cons_append, List.nil_append]
  rw [readItems?_year, readItems?_mark,
    readItems?_twoDigits (fun p n => { p with month := n }) (fun _ _ => rfl) hmonth,
    readItems?_mark,
    readItems?_twoDigits (fun p n => { p with day := n }) (fun _ _ => rfl) hday]

theorem time_bounds (m : Moment) : m.second / 3600 < 24 ∧ m.second / 60 % 60 < 60 ∧
    m.second % 60 + m.nano / nanos ≤ 60 := by
  have h := isTime_iff.mp m.valid
  unfold secondsPerDay nanos at h
  unfold nanos
  omega

/-- The parts of a moment down to its second. -/
def partsOf (m : Moment) : Parts where
  year := m.date.year
  month := m.date.month
  day := m.date.day
  hour := m.second / 3600
  minute := m.second / 60 % 60
  second := m.second % 60 + m.nano / nanos

/-- A second 60 is a leap second at the end of a minute, and every other second is none. -/
theorem moment?_partsOf (m : Moment) : (partsOf m).moment? = some m.shown := by
  obtain ⟨hhour, hminute, hsecond⟩ := time_bounds m
  have htime := isTime_iff.mp m.valid
  have hparts : ∀ (n : Moment) second nano, n.date = m.date → second = n.second → nano = n.nano →
      Moment.ofParts? m.date second nano = some n := by
    rintro n second nano hdate rfl rfl
    rw [← hdate]
    exact Moment.ofParts?_parts n
  unfold Parts.moment? partsOf
  simp only [Date.ofParts?_parts, Option.bind_eq_bind, Option.bind_some]
  rw [if_pos ⟨hhour, hminute, hsecond⟩]
  by_cases hinner : m.IsInnerLeap
  · have hend := hinner.2
    have hleap : nanos ≤ m.nano := of_decide_eq_true hinner.1
    unfold nanos at *
    rw [if_neg (by omega), Moment.shown, dif_pos hinner]
    exact hparts _ _ _ rfl (by simp only; omega) rfl
  · have hplain := Moment.not_isInnerLeap_iff.mp hinner
    rw [Moment.shown_eq hplain]
    unfold Moment.isLeapSecond at hplain
    rw [decide_eq_false_iff_not] at hplain
    unfold Moment.wholeSecond
    unfold nanos at *
    split
    · exact hparts _ _ _ rfl (by simp only; omega) (by simp only; omega)
    · exact hparts _ _ _ rfl (by simp only; omega) (by simp only; omega)

/-- Of the forms with a time the first one reads date and time. -/
theorem readForm?_clockDigits (m : Moment) :
    readForm? m.clockDigits
      (dateItems ++ [.blanks, .hour, .mark ':', .minute, .mark ':', .second]) =
        some m.shown := by
  obtain ⟨hhour, hminute, hsecond⟩ := time_bounds m
  unfold readForm? Moment.clockDigits Moment.timeDigits
  rw [readItems?_date]
  simp only [List.append_assoc, List.cons_append]
  have hblanks : ∀ p rest, Item.read? p (' ' :: (padded 2 (m.second / 3600) ++ rest)) .blanks =
      some (p, padded 2 (m.second / 3600) ++ rest) := by
    intro p rest
    rw [Item.read?, Text.trimStart_cons_of_blank (by decide), trimStart_padded (by decide)]
  rw [readItems?_cons (hblanks _ _),
    readItems?_twoDigits (fun p n => { p with hour := n }) (fun _ _ => rfl) (by omega),
    readItems?_mark,
    readItems?_twoDigits (fun p n => { p with minute := n }) (fun _ _ => rfl) (by omega),
    readItems?_mark, ← List.append_nil (padded 2 (m.second % 60 + m.nano / nanos)),
    readItems?_twoDigits (fun p n => { p with second := n }) (fun _ _ => rfl) (by omega)]
  exact moment?_partsOf m

/-- No form with a time reads a date alone. -/
theorem readForm?_digits_of_time (d : Date) {items : List Item}
    (h : ∀ p, readItems? p [] items = none) : readForm? d.digits (dateItems ++ items) = none := by
  have hdate := readItems?_date d [] items
  rw [List.append_nil, h] at hdate
  unfold readForm?
  rw [hdate]
  rfl

theorem readForm?_digits (m : Moment) (h : m.isMidnight = true) :
    readForm? m.date.digits dateItems = some m.shown := by
  have hdate := readItems?_date m.date [] []
  simp only [List.append_nil] at hdate
  have hmidnight : m.second = 0 ∧ m.nano = 0 := by
    unfold Moment.isMidnight at h
    simpa using h
  have hparts : ({ year := m.date.year, month := m.date.month, day := m.date.day } : Parts) =
      partsOf m := by
    unfold partsOf
    rw [hmidnight.1, hmidnight.2]
    rfl
  unfold readForm?
  rw [hdate, hparts]
  exact moment?_partsOf m

theorem forms_clockDigits (m : Moment) :
    forms.findSome? (readForm? m.clockDigits) = some m.shown := by
  unfold forms
  rw [List.findSome?_cons, readForm?_clockDigits]

theorem forms_digits (m : Moment) (h : m.isMidnight = true) :
    forms.findSome? (readForm? m.date.digits) = some m.shown := by
  unfold forms
  rw [List.findSome?_cons, readForm?_digits_of_time _ fun _ => rfl,
    List.findSome?_cons, readForm?_digits_of_time _ fun _ => rfl,
    List.findSome?_cons, readForm?_digits_of_time _ fun _ => rfl,
    List.findSome?_cons, readForm?_digits m h]

/-! ## The fixed form -/

theorem exactly?_eq_none {c : Char} (h : c.isDigit = false) (count : Nat) (cs : List Char) :
    exactly? (count + 1) (c :: cs) = none := by
  have hread : Text.readDigits? ((c :: cs).take (count + 1)) = none := by
    unfold Text.readDigits?
    rw [if_neg]
    simp [h]
  unfold exactly?
  simp only
  rw [hread]
  split <;> rfl

/-- A sign before the year stops the reading. -/
theorem readFixed?_of_sign {c : Char} (h : c.isDigit = false) (cs : List Char) :
    readFixed? (c :: cs) = none := by
  unfold readFixed?
  rw [exactly?_eq_none h]
  rfl

/-- Where the fixed form has an offset the text of a moment ends. -/
theorem readFixed?_digits_append (d : Date) {rest : List Char} (h : rest = [] ∨
    ∃ m : Moment, rest = ' ' :: m.timeDigits) : readFixed? (d.digits ++ rest) = none := by
  obtain ⟨hmonth, hday⟩ := date_bounds d
  unfold Date.digits yearDigits
  split
  · rename_i hyear
    have hfour : d.year.toNat < 10 ^ 4 := by omega
    simp only [List.append_assoc, List.cons_append]
    unfold readFixed?
    rw [exactly?_padded (by decide) hfour]
    simp only [Option.bind_eq_bind, Option.bind_some, after?, if_true,
      exactly?_padded (by decide : 0 < 2) hmonth, exactly?_padded (by decide : 0 < 2) hday]
    rcases h with rfl | ⟨m, rfl⟩
    · rfl
    · obtain ⟨hhour, hminute, hsecond⟩ := time_bounds m
      have hend := exactly?_padded (by decide : 0 < 2)
        (show m.second % 60 + m.nano / nanos < 10 ^ 2 by omega) []
      rw [List.append_nil] at hend
      unfold Moment.timeDigits
      simp only [List.append_assoc, List.cons_append, Option.bind_some, or_true, if_true,
        exactly?_padded (by decide : 0 < 2) (show m.second / 3600 < 10 ^ 2 by omega),
        exactly?_padded (by decide : 0 < 2) (show m.second / 60 % 60 < 10 ^ 2 by omega), hend]
      rfl
  · simp only [List.cons_append]
    refine readFixed?_of_sign ?_ _
    split <;> rfl

/-! ## The text -/

theorem trimEnd_append_padded (cs : List Char) (n : Nat) :
    Text.trimEnd (cs ++ padded 2 n) = cs ++ padded 2 n := by
  rcases h : (padded 2 n).reverse with _ | ⟨c, rest⟩
  · have hlength := Text.le_length_padded 2 n
    rw [List.reverse_eq_nil_iff.mp h, List.length_nil] at hlength
    omega
  · have hmem : c ∈ padded 2 n := List.mem_reverse.mp (by simp [h])
    have hdigit := Text.isDigit_of_mem_padded hmem
    have hreverse : (cs ++ padded 2 n).reverse = c :: (rest ++ cs.reverse) := by
      rw [List.reverse_append, h, List.cons_append]
    unfold Text.trimEnd
    rw [hreverse, List.dropWhile_cons_of_neg (by simp [Text.isBlank_of_isDigit hdigit]),
      ← hreverse, List.reverse_reverse]

/-- A date begins with a digit or a sign. -/
theorem trimStart_digits_append (d : Date) (rest : List Char) :
    Text.trimStart (d.digits ++ rest) = d.digits ++ rest := by
  unfold Date.digits
  simp only [List.append_assoc, trimStart_yearDigits]

theorem trim_digits (d : Date) : Text.trim d.digits = d.digits := by
  have hstart := trimStart_digits_append d []
  rw [List.append_nil] at hstart
  have hend := trimEnd_append_padded (yearDigits d.year ++ '-' :: padded 2 d.month ++ ['-']) d.day
  unfold Text.trim
  rw [hstart]
  unfold Date.digits
  simpa only [List.append_assoc, List.cons_append, List.nil_append] using hend

theorem trim_clockDigits (m : Moment) : Text.trim m.clockDigits = m.clockDigits := by
  have hend := trimEnd_append_padded (m.date.digits ++ ' ' :: (padded 2 (m.second / 3600) ++
    ':' :: padded 2 (m.second / 60 % 60) ++ [':'])) (m.second % 60 + m.nano / nanos)
  unfold Text.trim Moment.clockDigits
  rw [trimStart_digits_append]
  unfold Moment.timeDigits
  simpa only [List.append_assoc, List.cons_append, List.nil_append] using hend

/-- Date and time to the second are read again. -/
theorem ofText?_clockText (m : Moment) : ofText? m.clockText = some m.shown := by
  unfold ofText? Moment.clockText read?
  rw [String.toList_ofList, trim_clockDigits, Moment.clockDigits,
    readFixed?_digits_append _ (Or.inr ⟨m, rfl⟩)]
  exact forms_clockDigits m

/-- The text of a moment as a value is read again: at midnight it is the date alone. -/
theorem ofText?_text (m : Moment) : ofText? m.text = some m.shown := by
  unfold Moment.text
  split
  · rename_i hmidnight
    unfold ofText? read?
    have hfixed := readFixed?_digits_append m.date (Or.inl rfl)
    rw [List.append_nil] at hfixed
    rw [String.toList_ofList, trim_digits, hfixed]
    exact forms_digits m hmidnight
  · exact ofText?_clockText m

/-! ## Leap seconds in texts -/

/-- The second 60 ends a minute, and a fraction alone makes no leap second. -/
theorem Parts.not_isInnerLeap {p : Parts} {m : Moment} (hp : p.nano < nanos)
    (h : p.moment? = some m) : ¬ m.IsInnerLeap := by
  have hparts : ∀ {date : Date} {second nano : Nat}, Moment.ofParts? date second nano = some m →
      m.second = second ∧ m.nano = nano := by
    intro date second nano hm
    unfold Moment.ofParts? at hm
    split at hm
    · cases hm
      exact ⟨rfl, rfl⟩
    · cases hm
  unfold Parts.moment? at h
  obtain ⟨date, -, h⟩ := Option.bind_eq_some_iff.mp h
  rintro ⟨hleap, hend⟩
  split at h
  · split at h
    · have hsecond := (hparts h).1
      omega
    · have hnano := (hparts h).2
      have hnanos : nanos ≤ m.nano := of_decide_eq_true hleap
      omega
  · cases h

theorem Item.nano_read? {item : Item} {p q : Parts} {cs rest : List Char}
    (h : item.read? p cs = some (q, rest)) : q.nano = p.nano := by
  cases item with
  | blanks =>
    cases h
    rfl
  | _ =>
    obtain ⟨_, -, heq⟩ := Option.map_eq_some_iff.mp h
    cases heq
    rfl

/-- No form reads a fraction. -/
theorem nano_readItems? {items : List Item} {p q : Parts} {cs : List Char}
    (h : readItems? p cs items = some q) : q.nano = p.nano := by
  induction items generalizing p cs with
  | nil =>
    unfold readItems? at h
    split at h
    · cases h
      rfl
    · cases h
  | cons item items ih =>
    unfold readItems? at h
    split at h
    · rename_i hitem
      exact (ih h).trans (Item.nano_read? hitem)
    · cases h

/-- A fraction is read to nine places, so it is less than a second. -/
theorem fraction?_lt {cs rest : List Char} {n : Nat} (h : fraction? cs = some (n, rest)) :
    n < nanos := by
  unfold fraction? at h
  split at h
  · rename_i after
    obtain ⟨k, hk, heq⟩ := Option.map_eq_some_iff.mp h
    cases heq
    have hpow := Nat.pow_add 10 ((after.takeWhile Char.isDigit).take 9).length
      (9 - ((after.takeWhile Char.isDigit).take 9).length)
    rw [Nat.add_sub_of_le (List.length_take_le 9 _)] at hpow
    calc k * Decimal.tenTo _ < 10 ^ _ * Decimal.tenTo _ :=
          Nat.mul_lt_mul_of_pos_right (Text.readDigits?_lt hk) (Decimal.tenTo_pos _)
      _ = nanos := hpow.symm
  · cases h
    decide

theorem readFixed?_not_isInnerLeap {cs : List Char} {m : Moment} (h : readFixed? cs = some m) :
    ¬ m.IsInnerLeap := by
  unfold readFixed? at h
  simp only [Option.bind_eq_bind, Option.bind_eq_some_iff] at h
  obtain ⟨_, -, _, -, _, -, _, -, _, -, h⟩ := h
  -- What separates the date from the time.
  split at h
  · split at h
    · simp only [Option.bind_some, Option.bind_eq_some_iff] at h
      obtain ⟨_, -, _, -, _, -, _, -, _, -, fraction, hfraction, h⟩ := h
      split at h
      · exact Parts.not_isInnerLeap (fraction?_lt hfraction) h
      · cases h
    · cases h
  · cases h

/-- No text stands for a leap second in the middle of a minute. -/
theorem ofText?_not_isInnerLeap {text : String} {m : Moment} (h : ofText? text = some m) :
    ¬ m.IsInnerLeap := by
  unfold ofText? read? at h
  split at h
  · rename_i hfixed
    cases h
    exact readFixed?_not_isInnerLeap hfixed
  · obtain ⟨form, -, hform⟩ := List.exists_of_findSome?_eq_some h
    obtain ⟨p, hp, hm⟩ := Option.bind_eq_some_iff.mp hform
    apply Parts.not_isInnerLeap _ hm
    rw [nano_readItems? hp]
    decide

end Calendar

end Verdict
