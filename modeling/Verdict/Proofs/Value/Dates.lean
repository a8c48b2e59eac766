-- The laws of dates. A date is read again from its text, a move by a duration is
-- undone by the opposite one, and a difference leads back to where it was taken.
import Verdict.Proofs.Value.Temporal

namespace Verdict

theorem Kind.infer_text (m : Moment) : Kind.infer m.text = .date := if_pos (accepts_text m)

/-- A whole second keeps its place, and a leap second stays one. -/
theorem Moment.wholeSecond_eq (m : Moment) :
    m.wholeSecond.isLeapSecond = m.isLeapSecond ∧
      m.wholeSecond.nano = if m.isLeapSecond then nanos else 0 := by
  have hvalid := (isTime_iff.mp m.valid).2
  have hnano : m.wholeSecond.nano = if m.isLeapSecond then nanos else 0 := by
    unfold wholeSecond isLeapSecond
    simp only [decide_eq_true_iff]
    unfold nanos at hvalid ⊢
    split <;> omega
  refine ⟨?_, hnano⟩
  rw [isLeapSecond, hnano]
  cases m.isLeapSecond <;> decide

/-- The text of a date is that of no other kind, and only the fraction of a second is not in it: a
leap second at the end of a minute is read as one. A leap second in the middle of a minute has the
text of the second after it and is read as that, since no text stands for such a leap second. -/
theorem Calendar.a_date_is_read_again_from_its_text :
    (∀ m : Moment, Kind.infer m.text = .date ∧
      ∃ read, ofText? m.text = some read ∧ read.date = m.date ∧
        (m.isLeapSecond = false ∨ m.second % 60 = 59 →
          read.second = m.second ∧ read.isLeapSecond = m.isLeapSecond ∧
            read.nano = if m.isLeapSecond then nanos else 0) ∧
        (m.isLeapSecond = true → m.second % 60 ≠ 59 →
          read.second = m.second + 1 ∧ read.nano = 0)) ∧
    ∀ (text : String) (m : Moment), ofText? text = some m → m.isLeapSecond = true →
      m.second % 60 = 59 := by
  refine ⟨fun m => ⟨Kind.infer_text m, m.shown, ofText?_text m, ?_, ?_, ?_⟩, ?_⟩
  · unfold Moment.shown
    split <;> rfl
  · intro hplain
    rw [Moment.shown_eq hplain]
    exact ⟨rfl, m.wholeSecond_eq⟩
  · intro hleap hend
    rw [Moment.shown, dif_pos ⟨hleap, hend⟩]
    exact ⟨rfl, rfl⟩
  · intro text m h hleap
    have hplain := Moment.not_isInnerLeap_iff.mp (ofText?_not_isInnerLeap h)
    exact hplain.resolve_left (by simp [hleap])

/-- The leap second before the year 2017, a leap second three seconds after a full minute, and one
in a text. -/
theorem Calendar.two_leap_seconds_are_read_from_their_texts :
    let m : Moment := ⟨⟨2016, 12, 31, by decide⟩, 86399, 1500000000, by decide⟩
    let n : Moment := ⟨⟨-12345, 2, 28, by decide⟩, 3723, 1300000000, by decide⟩
    (m.text = "2016-12-31 23:59:60" ∧ ∃ read, ofText? m.text = some read ∧ read.date = m.date ∧
      read.second = 86399 ∧ read.isLeapSecond = true ∧ read.nano = 1000000000) ∧
    (n.text = "-12345-02-28 01:02:04" ∧ ∃ read, ofText? n.text = some read ∧
      read.date = n.date ∧ read.second = 3724 ∧ read.nano = 0) ∧
    ∃ read, ofText? "2016-12-31T23:59:60.25Z" = some read ∧ read.isLeapSecond = true ∧
      read.second % 60 = 59 := by
  intro m n
  obtain ⟨hmoments, htexts⟩ := a_date_is_read_again_from_its_text
  obtain ⟨-, p, hp, hdate, hplain, -⟩ := hmoments m
  obtain ⟨hsecond, hleap, hnano⟩ := hplain (Or.inr (by decide))
  obtain ⟨-, q, hq, hdate', -, hinner⟩ := hmoments n
  obtain ⟨hsecond', hnano'⟩ := hinner (by decide) (by decide)
  let t : Moment := ⟨m.date, 86399, 1250000000, by decide⟩
  have ht : ofText? "2016-12-31T23:59:60.25Z" = some t := by decide +kernel
  refine ⟨⟨by decide +kernel, p, hp, hdate, hsecond, hleap, hnano⟩,
    ⟨by decide +kernel, q, hq, hdate', hsecond', hnano'⟩, t, ht, by decide, ?_⟩
  exact htexts _ t ht (by decide)

/-- Three seconds after a full minute, a leap second and the second after it have the same text, and
only the latter is read from it. -/
theorem Calendar.a_leap_second_inside_a_minute_is_lost :
    let m : Moment := ⟨⟨2020, 1, 1, by decide⟩, 3723, 1300000000, by decide⟩
    m.text = "2020-01-01 01:02:04" ∧
      (∃ next : Moment, next.second = 3724 ∧ next.nano = 0 ∧ ofText? m.text = some next) ∧
      ¬ ∀ n : Moment, ofText? n.text = some n.wholeSecond := by
  intro m
  let next : Moment := ⟨m.date, 3724, 0, by decide⟩
  have hread : ofText? m.text = some next := by decide +kernel
  refine ⟨by decide +kernel, ⟨next, rfl, rfl, hread⟩, fun h => ?_⟩
  have hsame : next = m.wholeSecond := Option.some.inj (hread.symm.trans (h m))
  exact absurd hsame (by decide)

namespace ValueNode

variable {c : Context} {first last span : ValueNode} {kind outer : Kind}
  {m n : Moment} {s : Span} {negate : Bool} {op back : ArithmeticOp}

/-- A date that was moved and is moved back. -/
theorem resolve_move_back (hkind : kind.isTemporal = true) (houter : outer.isTemporal = true)
    (hop : subtracts op = .ok negate) (hback : subtracts back = .ok !negate)
    (hm : m.nano = 0) (hfirst : temporal? (first.resolve c) = some (.date m))
    (hspan : temporal? (span.resolve c) = some (.span s))
    (hmoved : ((compound kind op first span).resolve c).isAbsent = false) :
    (compound outer back (compound kind op first span) span).resolve c = .present m.text .date := by
  have hresolve := resolve_move hkind hop hfirst hspan
  rcases hto : m.moved? s negate with _ | moved
  · rw [hresolve, hto] at hmoved
    cases hmoved
  · obtain ⟨hwhole, hagain⟩ := Moment.moved?_back hm hto
    rw [hto] at hresolve
    have hdate : temporal? ((compound kind op first span).resolve c) = some (.date moved) := by
      rw [hresolve]
      exact temporal?_date (Calendar.ofText?_whole hwhole)
    rw [resolve_move houter hback hdate hspan, hagain]
    rfl

/-- A date that is moved by its difference from another one. -/
theorem resolve_move_difference (hkind : kind.isTemporal = true) (houter : outer.isTemporal = true)
    (hm : m.nano = 0) (hn : n.nano = 0) (hlast : temporal? (last.resolve c) = some (.date m))
    (hfirst : temporal? (first.resolve c) = some (.date n)) :
    ∃ r : Moment, r.NearlyReaches n m ∧
      (compound outer .plus first (compound kind .minus last first)).resolve c =
        .present r.text .date := by
  obtain ⟨r, hmoved, hr⟩ := Moment.exists_moved?_between hm hn
  have hspan : temporal? ((compound kind .minus last first).resolve c) =
      some (.span (Span.between m n)) := by
    rw [resolve_difference hkind hlast hfirst]
    exact temporal?_duration (Span.ofText?_text (Span.inInt64_between m n))
  refine ⟨r, hr, ?_⟩
  rw [resolve_move houter rfl hfirst hspan, hmoved]
  rfl

/-- A date that can be moved by a duration comes back to itself by the opposite move. The
difference of two dates moves the second one to less than a minute from the first, never past it,
and to the first itself exactly if whole minutes lie between them. -/
theorem moves_of_dates_lead_back {c : Context} {x y d : ValueNode} {a b : Moment} {s : Span}
    {i j k : Kind} (hi : i.isTemporal = true) (hj : j.isTemporal = true) (hk : k.isTemporal = true)
    (ha : a.nano = 0) (hb : b.nano = 0)
    (hx : temporal? (x.resolve c) = some (.date a)) (hy : temporal? (y.resolve c) = some (.date b))
    (hd : temporal? (d.resolve c) = some (.span s)) :
    (((compound i .plus x d).resolve c).isAbsent = false →
      (compound j .minus (compound i .plus x d) d).resolve c = .present a.text .date) ∧
    (((compound i .minus x d).resolve c).isAbsent = false →
      (compound j .plus (compound i .minus x d) d).resolve c = .present a.text .date) ∧
    ∃ r : Moment, r.NearlyReaches b a ∧
      (compound j .plus y (compound k .minus x y)).resolve c = .present r.text .date :=
  ⟨resolve_move_back hi hj rfl rfl ha hx hd, resolve_move_back hi hj rfl rfl ha hx hd,
    resolve_move_difference hk hj ha hb hx hy⟩

/-- Over a leap day and back. From half a minute before midnight, whole minutes do not lead to
midnight. -/
theorem moves_over_a_leap_day :
    let x := literal .date "2024-03-01"
    let y := literal .date "2024-02-27 23:59:30"
    let d := literal .duration "-36 hours"
    let a := Moment.midnight ⟨2024, 3, 1, by decide⟩
    let moved := compound .date .plus x d
    moved.resolve emptyContext = .present "2024-02-28 12:00:00" .date ∧
      (compound .date .minus moved d).resolve emptyContext = .present a.text .date ∧
      ∃ r : Moment, r ≠ a ∧ (a.nanosSince r).natAbs < 60 * nanos ∧
        (compound .date .plus y (compound .duration .minus x y)).resolve emptyContext =
          .present r.text .date := by
  intro x y d a moved
  let b : Moment := ⟨⟨2024, 2, 27, by decide⟩, 86370, 0, by decide⟩
  have hx : temporal? (x.resolve emptyContext) = some (.date a) := by
    rw [show x.resolve emptyContext = .present "2024-03-01" .date by decide +kernel]
    exact temporal?_date (by decide +kernel)
  have hy : temporal? (y.resolve emptyContext) = some (.date b) := by
    rw [show y.resolve emptyContext = .present "2024-02-27 23:59:30" .date by decide +kernel]
    exact temporal?_date (by decide +kernel)
  have hd : temporal? (d.resolve emptyContext) = some (.span ⟨-36, .hours⟩) := by
    rw [show d.resolve emptyContext = .present "-36 hours" .duration by decide +kernel]
    exact temporal?_duration (by decide +kernel)
  have hmoved : moved.resolve emptyContext = .present "2024-02-28 12:00:00" .date := by
    decide +kernel
  obtain ⟨hback, -, r, hr, hto⟩ :=
    moves_of_dates_lead_back (i := .date) (j := .date) (k := .duration)
      rfl rfl rfl (by decide) (by decide) hx hy hd
  have hne : ¬ (60 * nanos : Int) ∣ a.nanosSince b := by decide +kernel
  exact ⟨hmoved, hback (by rw [hmoved]; rfl), r, mt hr.exact_iff.mp hne, hr.near, hto⟩

end ValueNode

end Verdict
