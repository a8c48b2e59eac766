-- Negations in a repair. All references in range stay, in their order. Each stays
-- in the scope of as many `not`s as before, as long as the negated operands in
-- front of it keep their last references and the ends of their groups. The
-- first operand that does not passes its `not` on to what follows it.
import Verdict.Proofs.Formula.Repair
import Verdict.Proofs.Formula.Scope

namespace Verdict.Formula

variable {maxId : Nat}

/-! ## References that stay -/

theorem ids_withoutTail (es : List Element) : ids (withoutTail es) = ids es := by
  induction es using List.reverseRecOn with
  | nil => rfl
  | append_singleton es e ih =>
    rw [withoutTail_concat]
    rcases e with o | id
    · by_cases h : isHanging (.op o) = true
      · rw [if_pos h, ih, ids_append, ids_cons_op, ids_nil, List.append_nil]
      · rw [if_neg h]
    · rfl

/-- A reference and what stands in front of it are no part of the tail. -/
theorem exists_withoutTail (as bs : List Element) (id : Nat) :
    ∃ rest, withoutTail (as ++ .ref id :: bs) = as ++ .ref id :: rest := by
  induction bs using List.reverseRecOn with
  | nil =>
    rw [withoutTail_concat]
    exact ⟨[], rfl⟩
  | append_singleton bs e ih =>
    have hsplit : as ++ .ref id :: (bs ++ [e]) = (as ++ .ref id :: bs) ++ [e] := by simp
    rw [hsplit, withoutTail_concat]
    split
    · exact ih
    · exact ⟨bs ++ [e], hsplit.symm⟩

theorem ids_closed (es : List Element) : ids (closed es) = ids es := by
  have hnone : ∀ n, ids (List.replicate n (.op .closeParen)) = [] := by
    intro n
    induction n with
    | zero => rfl
    | succ n ih => rw [List.replicate_succ, ids_cons_op, ih]
  rw [closed, ids_append, hnone, List.append_nil]

/-- Where no operand ends in front of an element of the formula, none ends there in the repaired
formula either, and so the references in range stay. -/
theorem ids_kept {bound : Nat} {p q : Progress} {es : List Element} (h : Legal bound p es)
    (hpq : p.place.endsOperand = false → q.place.endsOperand = false) :
    ids (kept maxId q es) = (ids es).filter (· ≤ maxId) := by
  induction es generalizing p q with
  | nil => rfl
  | cons e es ih =>
    obtain ⟨he, hes⟩ := h
    have haccepts := Progress.accepts_of_admits he
    rcases e with o | id
    · have hop : ∀ q' : Progress,
          ((p.push (.op o)).place.endsOperand = false → q'.place.endsOperand = false) →
          ids (kept maxId q' es) = (ids (.op o :: es)).filter (· ≤ maxId) :=
        fun q' hq' => ih hes hq'
      unfold kept
      by_cases hq : q.admits maxId (.op o) = true
      · rw [if_pos hq, ids_cons_op]
        exact hop _ fun hends => hends
      · rw [if_neg hq]
        refine hop q fun hends => ?_
        -- Only a binary operator is refused behind an operand that ended in the formula only.
        by_cases hb : o.isBinary = true
        · by_contra hne
          exact hq (Progress.admits_connective ⟨o, hb⟩ (by simpa using hne))
        · refine hpq ?_
          cases o with
          | and | or | xor => exact absurd rfl hb
          | closeParen => cases hends
          | not => exact Place.endsOperand_of_beginsOperand (by simpa using haccepts)
          | openParen => simpa using haccepts
    · have hplace : q.place.endsOperand = false := hpq (by simpa using haccepts)
      unfold kept
      by_cases hid : id ≤ maxId
      · rw [if_pos (Progress.admits_ref hplace hid), ids_cons_ref, ids_cons_ref,
          List.filter_cons_of_pos (by simpa using hid)]
        exact congrArg (id :: ·) (ih hes fun hends => hends)
      · have hrefused : ¬ q.admits maxId (.ref id) = true := by simp [Progress.admits, hid]
        rw [if_neg hrefused, ids_cons_ref, List.filter_cons_of_neg (by simpa using hid)]
        exact ih hes fun _ => hplace

/-- A sentence is legal if the ids have a bound, and they have one. -/
theorem Sentence.exists_legal (s : Sentence) : ∃ bound, Legal bound .start s.elements := by
  obtain ⟨bound, hbound⟩ : ∃ bound, ∀ id ∈ ids s.elements, id ≤ bound := by
    induction ids s.elements with
    | nil => exact ⟨0, by simp⟩
    | cons n rest ih =>
      obtain ⟨bound, hbound⟩ := ih
      refine ⟨max n bound, fun id hid => ?_⟩
      rcases List.mem_cons.mp hid with rfl | hid
      · exact Nat.le_max_left ..
      · exact Nat.le_trans (hbound id hid) (Nat.le_max_right ..)
  exact ⟨bound, (isSentence_iff.mp ⟨⟨s, rfl⟩, hbound⟩).1⟩

theorem Sentence.ids_kept {s : Sentence} {front back : List Element}
    (h : s.elements = front ++ back) :
    ids (kept maxId .start front) = (ids front).filter (· ≤ maxId) := by
  obtain ⟨bound, hlegal⟩ := s.exists_legal
  rw [h, legal_append] at hlegal
  exact Formula.ids_kept hlegal.1 fun hends => hends

theorem Sentence.ids_repaired (s : Sentence) :
    ids (repaired maxId s.elements) = (ids s.elements).filter (· ≤ maxId) := by
  rw [repaired, ids_closed, ids_withoutTail, s.ids_kept (List.append_nil _).symm]

/-! ## Groups that are left open -/

mutual

/-- The last reference. -/
def Sentence.lastId : Sentence → Nat
  | .operand u => u.lastId
  | .join _ _ rest => rest.lastId

def Operand.lastId : Operand → Nat
  | .plain p | .negated p => p.lastId

def Primary.lastId : Primary → Nat
  | .ref id => id
  | .group s => s.lastId

end

mutual

/-- The number of groups that the repair opens and does not close where the sentence closes them.
A parenthesis closes nothing if the last reference in front of it is gone. -/
def Sentence.leftOpen (maxId : Nat) : Sentence → Nat
  | .operand u => u.leftOpen maxId
  | .join u _ rest => u.leftOpen maxId + rest.leftOpen maxId

def Operand.leftOpen (maxId : Nat) : Operand → Nat
  | .plain p | .negated p => p.leftOpen maxId

def Primary.leftOpen (maxId : Nat) : Primary → Nat
  | .ref _ => 0
  | .group s => s.leftOpen maxId + if s.lastId ≤ maxId then 0 else 1

end

/-- The repair leaves the primary as it is delimited: its last reference stays, and its groups are
closed where they were. -/
def Primary.isWhole (maxId : Nat) (p : Primary) : Bool :=
  decide (p.lastId ≤ maxId) && p.leftOpen maxId == 0

theorem Primary.isWhole_iff {p : Primary} :
    p.isWhole maxId = true ↔ p.lastId ≤ maxId ∧ p.leftOpen maxId = 0 := by
  simp [isWhole]

/-- All negated operands among the elements are whole. -/
def NegationsWhole (maxId : Nat) (es : List Element) : Prop :=
  ∀ p : Primary, .op .not :: p.elements <:+: es → p.isWhole maxId = true

theorem NegationsWhole.part {as bs : List Element} (h : NegationsWhole maxId bs)
    (hab : as <:+: bs) : NegationsWhole maxId as := fun p hp => h p (hp.trans hab)

theorem NegationsWhole.left {as bs : List Element} (h : NegationsWhole maxId (as ++ bs)) :
    NegationsWhole maxId as := h.part (List.prefix_append ..).isInfix

theorem NegationsWhole.right {as bs : List Element} (h : NegationsWhole maxId (as ++ bs)) :
    NegationsWhole maxId bs := h.part (List.suffix_append ..).isInfix

theorem NegationsWhole.tail {e : Element} {es : List Element}
    (h : NegationsWhole maxId (e :: es)) : NegationsWhole maxId es :=
  h.part (List.suffix_cons ..).isInfix

theorem negationsWhole_nil (maxId : Nat) : NegationsWhole maxId [] :=
  fun _ hp => absurd (List.infix_nil.mp hp) (by simp)

theorem NegationsWhole.cons {e : Element} {es : List Element} (h : NegationsWhole maxId es)
    (he : e ≠ .op .not) : NegationsWhole maxId (e :: es) := by
  intro p hp
  rcases List.infix_cons_iff.mp hp with hfront | hinner
  · exact absurd (List.cons_prefix_cons.mp hfront).1.symm he
  · exact h p hinner

theorem NegationsWhole.not_ref {id : Nat} {es : List Element}
    (h : NegationsWhole maxId (.ref id :: es)) (hid : id ≤ maxId) :
    NegationsWhole maxId (.op .not :: .ref id :: es) := by
  intro p hp
  rcases List.infix_cons_iff.mp hp with hfront | hinner
  · obtain ⟨-, hfront⟩ := List.cons_prefix_cons.mp hfront
    match p with
    | .ref other =>
      have hother : other = id := by simpa [Primary.elements] using hfront
      exact Primary.isWhole_iff.mpr ⟨hother ▸ hid, rfl⟩
    | .group s => simp [Primary.elements] at hfront
  · exact h p hinner

/-! ## Behind what is kept -/

theorem Place.beginsOperand_iff {l : Place} :
    l.beginsOperand = true ↔ l.endsOperand = false ∧ l ≠ .afterNot := by
  cases l <;> simp [beginsOperand, endsOperand]

/-- The scope behind what the repair keeps of some elements. -/
def passed (maxId : Nat) (c : Scope) (es : List Element) : Scope :=
  c.after (kept maxId c.progress es)

theorem kept_append_passed (c : Scope) (as bs : List Element) :
    kept maxId c.progress (as ++ bs) =
      kept maxId c.progress as ++ kept maxId (passed maxId c as).progress bs := by
  rw [kept_append, passed, Scope.progress_after]

@[simp] theorem passed_nil (c : Scope) : passed maxId c [] = c := rfl

theorem passed_append (c : Scope) (as bs : List Element) :
    passed maxId c (as ++ bs) = passed maxId (passed maxId c as) bs := by
  rw [passed, kept_append_passed, Scope.after_append]
  rfl

theorem passed_of_admits {c : Scope} {e : Element} (h : c.progress.admits maxId e = true)
    (es : List Element) : passed maxId c (e :: es) = passed maxId (c.push e) es := by
  unfold passed
  rw [kept, if_pos h, Scope.progress_push]
  rfl

theorem passed_of_refused {c : Scope} {e : Element} (h : c.progress.admits maxId e = false)
    (es : List Element) : passed maxId c (e :: es) = passed maxId c es := by
  unfold passed
  rw [kept, if_neg (by simp [h])]

/-- Behind a binary operator, which is refused where no operand ends. -/
def Scope.joined (c : Scope) : Scope :=
  ⟨if c.place.endsOperand then .afterBinary else c.place, c.groups⟩

theorem Scope.endsOperand_joined (c : Scope) : c.joined.place.endsOperand = false := by
  unfold joined
  by_cases h : c.place.endsOperand = true
  · rw [if_pos h]
    rfl
  · rw [if_neg h]
    simpa using h

theorem Scope.beginsOperand_joined {c : Scope} (h : c.place ≠ .afterNot) :
    c.joined.place.beginsOperand = true := by
  refine Place.beginsOperand_iff.mpr ⟨c.endsOperand_joined, ?_⟩
  unfold joined
  split
  · simp
  · exact h

/-- A binary operator begins no operand and ends none, so it changes no `not`. -/
theorem Scope.negations_joined (c : Scope) : c.joined.negations = c.negations := by
  unfold joined negations
  by_cases h : c.place.endsOperand = true
  · have hplace : c.place ≠ .afterNot := by
      rintro hplace
      rw [hplace] at h
      cases h
    simp [h, hplace]
  · simp [h]

theorem passed_connective (c : Scope) (b : Connective) (es : List Element) :
    passed maxId c (.op b.val :: es) = passed maxId c.joined es := by
  unfold Scope.joined
  by_cases h : c.place.endsOperand = true
  · rw [passed_of_admits (Progress.admits_connective b h), Scope.push_connective, if_pos h]
  · have hrefused : c.progress.admits maxId (.op b.val) = false := by
      unfold Progress.admits
      rw [Place.accepts_connective]
      simp [Scope.progress, h]
    rw [passed_of_refused hrefused, if_neg h]

/-- A group is closed where it ends if an operand ends there in the repaired formula too. -/
theorem passed_group {c : Scope} (hc : c.place.endsOperand = false) {es : List Element}
    (hes : (passed maxId (c.push (.op .openParen)) es).groups ≠ []) :
    passed maxId c (.op .openParen :: (es ++ [.op .closeParen])) =
      if (passed maxId (c.push (.op .openParen)) es).place.endsOperand then
        (passed maxId (c.push (.op .openParen)) es).push (.op .closeParen)
      else passed maxId (c.push (.op .openParen)) es := by
  rw [passed_of_admits (Progress.admits_openParen hc), passed_append]
  generalize passed maxId (c.push (.op .openParen)) es = d at hes ⊢
  by_cases h : d.place.endsOperand = true
  · have hdepth : 0 < d.progress.depth := List.length_pos_iff.mpr hes
    rw [passed_of_admits (Progress.admits_closeParen h hdepth), passed_nil, if_pos h]
  · rw [passed_of_refused (by simp [Progress.admits, Scope.progress, h]), passed_nil, if_neg h]

/-! ## What a tree leaves behind -/

/-- From the first scope to the second so many new groups were opened and not closed. An operand
ends in front of the second or not. -/
structure Leaves (c d : Scope) (opened : Nat) (ends : Prop) : Prop where
  groups : ∃ new, d.groups = new ++ c.groups ∧ new.length = opened
  endsOperand_iff : d.place.endsOperand = true ↔ ends

mutual

theorem leaves_sentence (s : Sentence) {c : Scope} (hc : c.place.endsOperand = false) :
    Leaves c (passed maxId c s.elements) (s.leftOpen maxId) (s.lastId ≤ maxId) := by
  match s with
  | .operand u =>
    simp only [Sentence.elements, Sentence.leftOpen, Sentence.lastId]
    exact leaves_operand u hc
  | .join u b rest =>
    obtain ⟨new, hnew, hlength⟩ := (leaves_operand u hc).groups
    obtain ⟨⟨more, hmore, hmoreLength⟩, hends⟩ :=
      leaves_sentence rest (passed maxId c u.elements).endsOperand_joined
    simp only [Sentence.elements, Sentence.leftOpen, Sentence.lastId]
    rw [passed_append, passed_connective]
    refine ⟨⟨more ++ new, ?_, ?_⟩, hends⟩
    · rw [hmore]
      show more ++ (passed maxId c u.elements).groups = _
      rw [hnew, List.append_assoc]
    · rw [List.length_append, hlength, hmoreLength, Nat.add_comm]

theorem leaves_operand (u : Operand) {c : Scope} (hc : c.place.endsOperand = false) :
    Leaves c (passed maxId c u.elements) (u.leftOpen maxId) (u.lastId ≤ maxId) := by
  match u with
  | .plain p =>
    simp only [Operand.elements, Operand.leftOpen, Operand.lastId]
    exact leaves_primary p hc
  | .negated p =>
    simp only [Operand.elements, Operand.leftOpen, Operand.lastId]
    by_cases h : c.progress.admits maxId (.op .not) = true
    · rw [passed_of_admits h]
      obtain ⟨hgroups, hends⟩ := leaves_primary p (c := c.push (.op .not)) rfl
      exact ⟨hgroups, hends⟩
    · rw [passed_of_refused (by simpa using h)]
      exact leaves_primary p hc

theorem leaves_primary (p : Primary) {c : Scope} (hc : c.place.endsOperand = false) :
    Leaves c (passed maxId c p.elements) (p.leftOpen maxId) (p.lastId ≤ maxId) := by
  match p with
  | .ref id =>
    simp only [Primary.elements, Primary.leftOpen, Primary.lastId]
    by_cases h : id ≤ maxId
    · rw [passed_of_admits (Progress.admits_ref hc h)]
      exact ⟨⟨[], rfl, rfl⟩, iff_of_true rfl h⟩
    · rw [passed_of_refused (by simp [Progress.admits, h])]
      exact ⟨⟨[], rfl, rfl⟩, iff_of_false (by simp [hc]) h⟩
  | .group s =>
    obtain ⟨⟨new, hnew, hlength⟩, hends⟩ := leaves_sentence s (c := c.push (.op .openParen)) rfl
    -- The new groups and the group itself; the innermost of them is closed, if any is.
    have hgroups : (passed maxId (c.push (.op .openParen)) s.elements).groups =
        (new ++ [c.place == .afterNot]) ++ c.groups := by
      rw [hnew, List.append_assoc]
      rfl
    simp only [Primary.elements, Primary.leftOpen, Primary.lastId]
    rw [passed_group hc (by simp [hgroups])]
    by_cases h : s.lastId ≤ maxId
    · rw [if_pos (hends.mpr h), if_pos h]
      refine ⟨⟨(new ++ [c.place == .afterNot]).tail, ?_, ?_⟩, iff_of_true rfl h⟩
      · show (passed maxId (c.push (.op .openParen)) s.elements).groups.tail = _
        rw [hgroups, List.tail_append_of_ne_nil (by simp)]
      · rw [List.length_tail, List.length_append, hlength]
        rfl
    · rw [if_neg (mt hends.mp h), if_neg h]
      refine ⟨⟨new ++ [c.place == .afterNot], hgroups, ?_⟩, hends⟩
      rw [List.length_append, hlength]
      rfl

end

/-- A whole primary leaves no group open and ends an operand. -/
theorem passed_whole {p : Primary} (hp : p.isWhole maxId = true) {c : Scope}
    (hc : c.place.endsOperand = false) :
    (passed maxId c p.elements).groups = c.groups ∧
      (passed maxId c p.elements).place.endsOperand = true := by
  obtain ⟨hlast, hopen⟩ := Primary.isWhole_iff.mp hp
  have hleaves : Leaves c (passed maxId c p.elements) (p.leftOpen maxId) (p.lastId ≤ maxId) :=
    leaves_primary p hc
  obtain ⟨⟨new, hnew, hlength⟩, hends⟩ := hleaves
  rw [hopen, List.length_eq_zero_iff] at hlength
  rw [hnew, hlength]
  exact ⟨rfl, hends.mpr hlast⟩

/-! ## Groups without a negation -/

/-- From the first scope to the second only groups without a `not` were opened and not closed, and
no `not` waits for an operand. -/
structure Settles (c d : Scope) : Prop where
  groups : ∃ n, d.groups = List.replicate n false ++ c.groups
  place_ne : d.place ≠ .afterNot

theorem Settles.count_eq {c d : Scope} (h : Settles c d) :
    d.groups.count true = c.groups.count true := by
  obtain ⟨n, hn⟩ := h.groups
  rw [hn, List.count_append, List.count_replicate]
  exact Nat.zero_add _

mutual

theorem settles_sentence (s : Sentence) {c : Scope} (hc : c.place.beginsOperand = true)
    (hw : NegationsWhole maxId s.elements) : Settles c (passed maxId c s.elements) := by
  match s with
  | .operand u =>
    simp only [Sentence.elements] at hw ⊢
    exact settles_operand u hc hw
  | .join u b rest =>
    simp only [Sentence.elements] at hw ⊢
    have hu := settles_operand u hc hw.left
    have hrest := settles_sentence rest (Scope.beginsOperand_joined hu.place_ne)
      hw.right.tail
    obtain ⟨n, hn⟩ := hu.groups
    obtain ⟨k, hk⟩ := hrest.groups
    rw [passed_append, passed_connective]
    refine ⟨⟨k + n, ?_⟩, hrest.place_ne⟩
    rw [hk, List.replicate_add, List.append_assoc, ← hn]
    rfl

theorem settles_operand (u : Operand) {c : Scope} (hc : c.place.beginsOperand = true)
    (hw : NegationsWhole maxId u.elements) : Settles c (passed maxId c u.elements) := by
  match u with
  | .plain p =>
    simp only [Operand.elements] at hw ⊢
    exact settles_primary p hc hw
  | .negated p =>
    simp only [Operand.elements] at hw ⊢
    obtain ⟨hgroups, hends⟩ := passed_whole (hw p List.infix_rfl) (c := c.push (.op .not)) rfl
    rw [passed_of_admits (Progress.admits_not hc)]
    refine ⟨⟨0, hgroups⟩, fun hplace => ?_⟩
    rw [hplace] at hends
    cases hends

theorem settles_primary (p : Primary) {c : Scope} (hc : c.place.beginsOperand = true)
    (hw : NegationsWhole maxId p.elements) : Settles c (passed maxId c p.elements) := by
  match p with
  | .ref id =>
    simp only [Primary.elements]
    obtain ⟨hends, hplace⟩ := Place.beginsOperand_iff.mp hc
    by_cases h : id ≤ maxId
    · rw [passed_of_admits (Progress.admits_ref hends h)]
      exact ⟨⟨0, rfl⟩, Scope.place_push_ne (by simp)⟩
    · rw [passed_of_refused (by simp [Progress.admits, h])]
      exact ⟨⟨0, rfl⟩, hplace⟩
  | .group s =>
    simp only [Primary.elements] at hw ⊢
    obtain ⟨hends, hplace⟩ := Place.beginsOperand_iff.mp hc
    have hs := settles_sentence s (c := c.push (.op .openParen)) rfl
      hw.tail.left
    obtain ⟨n, hn⟩ := hs.groups
    have hgroups : (passed maxId (c.push (.op .openParen)) s.elements).groups =
        false :: (List.replicate n false ++ c.groups) := by
      have hflag : (c.push (.op .openParen)).groups = false :: c.groups := by
        simp [Scope.push, hplace]
      rw [hn, hflag, ← List.cons_append, ← List.replicate_succ, List.replicate_succ',
        List.append_assoc]
      rfl
    rw [passed_group hends (by simp [hgroups])]
    split
    · refine ⟨⟨n, ?_⟩, Scope.place_push_ne (by decide)⟩
      show (passed maxId (c.push (.op .openParen)) s.elements).groups.tail = _
      rw [hgroups]
      rfl
    · exact ⟨⟨n + 1, hgroups⟩, hs.place_ne⟩

end

/-- The groups that are left open, exactly. -/
theorem groups_of_settled (s : Sentence) {c : Scope} (hc : c.place.beginsOperand = true)
    (hw : NegationsWhole maxId s.elements) :
    (passed maxId c s.elements).groups = List.replicate (s.leftOpen maxId) false ++ c.groups := by
  obtain ⟨n, hn⟩ := (settles_sentence s hc hw).groups
  have hleaves : Leaves c (passed maxId c s.elements) (s.leftOpen maxId) (s.lastId ≤ maxId) :=
    leaves_sentence s (Place.beginsOperand_iff.mp hc).1
  obtain ⟨new, hnew, hlength⟩ := hleaves.groups
  have hcount : n = s.leftOpen maxId := by
    rw [hnew, List.append_cancel_right_eq] at hn
    rw [← hlength, hn, List.length_replicate]
  rw [hn, hcount]

/-! ## In front of a reference -/

/-- The element may begin an operand. -/
def opens (e : Element) : Bool := Place.start.accepts e

/-- A list is cut in front of an element: the element lies in the first part of the list or in the
second. -/
theorem append_eq_cut {as bs front back : List Element} {e : Element}
    (h : as ++ bs = front ++ e :: back) :
    (∃ cs, as = front ++ e :: cs) ∨ ∃ cs, front = as ++ cs ∧ bs = cs ++ e :: back := by
  rcases List.append_eq_append_iff.mp h with ⟨cs, hfront, hbs⟩ | ⟨cs, has, hcs⟩
  · exact Or.inr ⟨cs, hfront, hbs⟩
  · rcases cs with _ | ⟨x, cs⟩
    · exact Or.inr ⟨[], by simpa using has.symm, by simpa using hcs.symm⟩
    · rw [List.cons_append, List.cons.injEq] at hcs
      exact Or.inl ⟨cs, hcs.1 ▸ has⟩

/-- As many `not`s go on in the repaired formula as in the formula, and an operand is due in
both. -/
structure Agrees (c d : Scope) : Prop where
  count_eq : c.groups.count true = d.groups.count true
  afterNot_iff : c.place = .afterNot ↔ d.place = .afterNot
  endsOperand : c.place.endsOperand = false

namespace Agrees

variable {c d : Scope}

theorem negations_eq (h : Agrees c d) : c.negations = d.negations := by
  unfold Scope.negations
  rw [h.count_eq]
  simp only [h.afterNot_iff]

theorem not (h : Agrees c d) : Agrees (c.push (.op .not)) (d.push (.op .not)) :=
  ⟨h.count_eq, iff_of_true rfl rfl, rfl⟩

theorem openParen (h : Agrees c d) :
    Agrees (c.push (.op .openParen)) (d.push (.op .openParen)) := by
  have hne : ∀ x : Scope, (x.push (.op .openParen)).place ≠ .afterNot :=
    fun x => Scope.place_push_ne (by decide)
  refine ⟨?_, iff_of_false (hne c) (hne d), rfl⟩
  have hflag : (c.place == .afterNot) = (d.place == .afterNot) := by
    rw [Bool.eq_iff_iff, beq_iff_eq, beq_iff_eq]
    exact h.afterNot_iff
  simp only [Scope.push, List.count_cons, h.count_eq, hflag]

end Agrees

mutual

theorem agrees_sentence (s : Sentence) {c d : Scope} (h : Agrees c d) (hd : d.place ≠ .afterNot)
    {front back : List Element} {e : Element} (he : opens e = true)
    (hs : s.elements = front ++ e :: back) (hw : NegationsWhole maxId front) :
    Agrees (passed maxId c front) (d.after front) := by
  match s with
  | .operand u =>
    simp only [Sentence.elements] at hs
    exact agrees_operand u h hd he hs hw
  | .join u b rest =>
    simp only [Sentence.elements] at hs
    rcases append_eq_cut hs with ⟨cs, hu⟩ | ⟨cs, rfl, hrest⟩
    · exact agrees_operand u h hd he hu hw
    · rcases cs with _ | ⟨x, cs⟩
      · -- No operand begins with the binary operator.
        rw [List.nil_append, List.cons.injEq] at hrest
        rw [← hrest.1, opens, Place.accepts_connective] at he
        cases he
      · rw [List.cons_append, List.cons.injEq] at hrest
        obtain ⟨rfl, hrest⟩ := hrest
        have hbegins : c.place.beginsOperand = true :=
          Place.beginsOperand_iff.mpr ⟨h.endsOperand, mt h.afterNot_iff.mp hd⟩
        have hu := settles_operand u hbegins hw.left
        have hjoin : Agrees (passed maxId c u.elements).joined ⟨.afterBinary, d.groups⟩ := by
          refine ⟨hu.count_eq.trans h.count_eq, iff_of_false ?_ (by simp), ?_⟩
          · exact (Place.beginsOperand_iff.mp (Scope.beginsOperand_joined hu.place_ne)).2
          · exact Scope.endsOperand_joined _
        rw [passed_append, passed_connective, Scope.after_append, Scope.after_cons,
          Scope.push_connective, (covers_operand u hd).groups_eq]
        exact agrees_sentence rest hjoin (by simp) he hrest
          hw.right.tail

theorem agrees_operand (u : Operand) {c d : Scope} (h : Agrees c d) (hd : d.place ≠ .afterNot)
    {front back : List Element} {e : Element} (he : opens e = true)
    (hs : u.elements = front ++ e :: back) (hw : NegationsWhole maxId front) :
    Agrees (passed maxId c front) (d.after front) := by
  match u with
  | .plain p =>
    simp only [Operand.elements] at hs
    exact agrees_primary p h he hs hw
  | .negated p =>
    simp only [Operand.elements] at hs
    rcases front with _ | ⟨x, front⟩
    · exact h
    · rw [List.cons_append, List.cons.injEq] at hs
      obtain ⟨rfl, hs⟩ := hs
      have hbegins : c.place.beginsOperand = true :=
        Place.beginsOperand_iff.mpr ⟨h.endsOperand, mt h.afterNot_iff.mp hd⟩
      rw [passed_of_admits (Progress.admits_not hbegins), Scope.after_cons]
      exact agrees_primary p h.not he hs hw.tail

theorem agrees_primary (p : Primary) {c d : Scope} (h : Agrees c d)
    {front back : List Element} {e : Element} (he : opens e = true)
    (hs : p.elements = front ++ e :: back) (hw : NegationsWhole maxId front) :
    Agrees (passed maxId c front) (d.after front) := by
  match p with
  | .ref id =>
    simp only [Primary.elements] at hs
    rcases front with _ | ⟨x, front⟩
    · exact h
    · simp at hs
  | .group s =>
    simp only [Primary.elements] at hs
    rcases front with _ | ⟨x, front⟩
    · exact h
    · rw [List.cons_append, List.cons.injEq] at hs
      obtain ⟨rfl, hs⟩ := hs
      rcases append_eq_cut hs with ⟨cs, hs⟩ | ⟨cs, -, hclose⟩
      · rw [passed_of_admits (Progress.admits_openParen h.endsOperand), Scope.after_cons]
        exact agrees_sentence s h.openParen (Scope.place_push_ne (by decide)) he hs
          hw.tail
      · -- No operand begins with the closing parenthesis.
        rcases cs with _ | ⟨y, cs⟩
        · rw [List.nil_append, List.cons.injEq] at hclose
          rw [← hclose.1] at he
          cases he
        · simp at hclose

end

/-! ## Behind a negated operand that breaks -/

/-- What leaves no whole operand behind its `not` leaves the `not` to the next operand: either it
still waits for one, or the group behind it is still open. -/
theorem negations_of_broken {p : Primary} (hp : p.isWhole maxId = false)
    (hw : NegationsWhole maxId p.elements) {c : Scope} (hc : c.place = .afterNot) :
    (passed maxId c p.elements).negations = c.negations := by
  have hends : c.place.endsOperand = false := by rw [hc]; rfl
  match p with
  | .ref id =>
    have hid : ¬ id ≤ maxId := fun h => by
      rw [Primary.isWhole_iff.mpr ⟨h, rfl⟩] at hp
      cases hp
    simp only [Primary.elements]
    rw [passed_of_refused (by simp [Progress.admits, hid]), passed_nil]
  | .group s =>
    have hflag : (c.push (.op .openParen)).groups = true :: c.groups := by simp [Scope.push, hc]
    have hc' : c.negations = c.groups.count true + 1 := by simp [Scope.negations, hc]
    have hs := settles_sentence s (c := c.push (.op .openParen)) rfl hw.tail.left
    have hgroups := groups_of_settled s (c := c.push (.op .openParen)) rfl hw.tail.left
    have hlast : (passed maxId (c.push (.op .openParen)) s.elements).place.endsOperand = true ↔
        s.lastId ≤ maxId := (leaves_sentence s rfl).endsOperand_iff
    simp only [Primary.elements]
    rw [passed_group hends (by simp [hgroups, hflag])]
    split
    · -- The parenthesis closes an inner group, because one of them was left open.
      rename_i hclosed
      have hopen : s.leftOpen maxId ≠ 0 := by
        intro hzero
        have hwhole : (Primary.group s).leftOpen maxId = 0 := by
          rw [Primary.leftOpen, hzero, if_pos (hlast.mp hclosed)]
        rw [Primary.isWhole_iff.mpr ⟨hlast.mp hclosed, hwhole⟩] at hp
        cases hp
      obtain ⟨k, hk⟩ := Nat.exists_eq_succ_of_ne_zero hopen
      rw [Scope.negations_of_ne (Scope.place_push_ne (by decide)), hc']
      show (passed maxId (c.push (.op .openParen)) s.elements).groups.tail.count true = _
      rw [hgroups, hflag, hk, List.replicate_succ]
      simp [List.count_replicate]
    · rw [Scope.negations_of_ne hs.place_ne, hs.count_eq, hflag, hc']
      simp

/-- The binary operator behind a broken operand is refused or not; the `not` goes on. -/
theorem passed_broken {p : Primary} (hp : p.isWhole maxId = false)
    (hw : NegationsWhole maxId p.elements) {c : Scope} (hc : c.place.beginsOperand = true)
    (b : Connective) :
    (passed maxId c (.op .not :: (p.elements ++ [.op b.val]))).place.endsOperand = false ∧
      (passed maxId c (.op .not :: (p.elements ++ [.op b.val]))).negations = c.negations + 1 := by
  have hpassed : passed maxId c (.op .not :: (p.elements ++ [.op b.val])) =
      (passed maxId (c.push (.op .not)) p.elements).joined := by
    rw [passed_of_admits (Progress.admits_not hc), passed_append, passed_connective, passed_nil]
  have hplace : c.place ≠ .afterNot := (Place.beginsOperand_iff.mp hc).2
  rw [hpassed, Scope.negations_joined, negations_of_broken hp hw rfl,
    Scope.negations_push_not hplace]
  exact ⟨Scope.endsOperand_joined _, rfl⟩

/-- In the formula the `not` is over behind its operand. -/
theorem negations_after_operand {c : Scope} (hc : c.place ≠ .afterNot) (p : Primary)
    (b : Connective) :
    (c.after (.op .not :: (p.elements ++ [.op b.val]))).negations = c.negations := by
  rw [Scope.after_cons, Scope.after_append, Scope.after_cons, Scope.push_connective,
    (covers_primary p _).groups_eq, Scope.after_nil, Scope.negations_of_ne (by simp),
    Scope.negations_of_ne hc]
  rfl

/-! ## The repaired formula -/

theorem agrees_start {s : Sentence} {front back : List Element} {e : Element}
    (he : opens e = true) (hs : s.elements = front ++ e :: back)
    (hw : NegationsWhole maxId front) :
    Agrees (passed maxId .start front) (Scope.start.after front) :=
  agrees_sentence s ⟨rfl, Iff.rfl, rfl⟩ (by decide) he hs hw

/-- No `not` stands directly in front of another one. -/
theorem Sentence.place_ne_afterNot {s : Sentence} {front back : List Element}
    (hs : s.elements = front ++ .op .not :: back) :
    (Scope.start.after front).place ≠ .afterNot := by
  obtain ⟨bound, hlegal⟩ := s.exists_legal
  have hprogress : (Scope.start.after front).progress = Progress.start.after front :=
    Scope.progress_after .start front
  rw [hs, legal_append, legal_cons, ← hprogress] at hlegal
  have hbegins := Progress.accepts_of_admits hlegal.2.1
  rw [Place.accepts_not] at hbegins
  exact (Place.beginsOperand_iff.mp hbegins).2

/-- The entry of a reference in the repaired formula. -/
theorem Sentence.getElem?_repaired {s t : Sentence} (ht : t.elements = repaired maxId s.elements)
    {front back : List Element} {id : Nat} (hs : s.elements = front ++ .ref id :: back)
    (hid : id ≤ maxId) (hends : (passed maxId .start front).place.endsOperand = false) :
    (t.scopes 0)[((ids front).filter (· ≤ maxId)).length]? =
      some (id, (passed maxId .start front).negations) := by
  have hkept : kept maxId .start s.elements = kept maxId .start front ++ .ref id ::
      kept maxId ((passed maxId .start front).progress.push (.ref id)) back := by
    rw [hs]
    refine (kept_append_passed .start front _).trans (congrArg _ ?_)
    rw [kept, if_pos (Progress.admits_ref hends hid)]
  obtain ⟨rest, hrest⟩ := exists_withoutTail (kept maxId .start front)
    (kept maxId ((passed maxId .start front).progress.push (.ref id)) back) id
  rw [repaired, hkept, hrest, closed, List.append_assoc, List.cons_append] at ht
  rw [← s.ids_kept hs]
  exact t.getElem?_scopes ht

/-- Where all negated operands in front are whole, the reference stays in the scope of as many
`not`s. -/
theorem Sentence.scope_kept {s t : Sentence} (ht : t.elements = repaired maxId s.elements)
    {front back : List Element} {id : Nat} (hs : s.elements = front ++ .ref id :: back)
    (hid : id ≤ maxId) (hw : NegationsWhole maxId front) :
    ∃ n, (s.scopes 0)[(ids front).length]? = some (id, n) ∧
      (t.scopes 0)[((ids front).filter (· ≤ maxId)).length]? = some (id, n) := by
  have h := agrees_start rfl hs hw
  refine ⟨_, s.getElem?_scopes hs, ?_⟩
  rw [Sentence.getElem?_repaired ht hs hid h.endsOperand, h.negations_eq]

/-- Behind the first negated operand that is not whole and a binary operator, the reference comes
into the scope of one more `not`. -/
theorem Sentence.scope_moved {s t : Sentence} (ht : t.elements = repaired maxId s.elements)
    {front back : List Element} {p : Primary} {b : Connective} {id : Nat}
    (hs : s.elements = front ++ .op .not :: (p.elements ++ .op b.val :: .ref id :: back))
    (hid : id ≤ maxId) (hfront : NegationsWhole maxId front)
    (hw : NegationsWhole maxId p.elements) (hp : p.isWhole maxId = false) :
    ∃ n, (s.scopes 0)[(ids front ++ ids p.elements).length]? = some (id, n) ∧
      (t.scopes 0)[((ids front ++ ids p.elements).filter (· ≤ maxId)).length]? =
        some (id, n + 1) := by
  have hids : ids (front ++ .op .not :: (p.elements ++ [.op b.val])) =
      ids front ++ ids p.elements := by
    rw [ids_append, ids_cons_op, ids_append, ids_cons_op, ids_nil, List.append_nil]
  have hs' : s.elements =
      (front ++ .op .not :: (p.elements ++ [.op b.val])) ++ .ref id :: back := by simp [hs]
  have h := agrees_start rfl hs hfront
  have hplace := Sentence.place_ne_afterNot hs
  have hbegins : (passed maxId .start front).place.beginsOperand = true :=
    Place.beginsOperand_iff.mpr ⟨h.endsOperand, mt h.afterNot_iff.mp hplace⟩
  obtain ⟨hends, hmore⟩ := passed_broken hp hw hbegins b
  rw [← passed_append] at hends hmore
  have hbefore : (Scope.start.after (front ++ .op .not :: (p.elements ++ [.op b.val]))).negations =
      (Scope.start.after front).negations := by
    rw [Scope.after_append]
    exact negations_after_operand hplace p b
  refine ⟨_, hids ▸ s.getElem?_scopes hs', ?_⟩
  rw [← hids, Sentence.getElem?_repaired ht hs' hid hends, hmore, h.negations_eq, hbefore]

end Verdict.Formula
