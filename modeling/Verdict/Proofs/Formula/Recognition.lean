-- The places of the repair recognize the grammar. A list is a sentence if and
-- only if each of its elements may stand where it stands, an operand ends the
-- list, and no parenthesis is left open.
import Verdict.Proofs.Formula.Sentence

namespace Verdict.Formula

/-! ## Legal lists -/

namespace Progress

/-- The progress behind a list of elements. -/
def after (p : Progress) (es : List Element) : Progress := es.foldl push p

@[simp] theorem after_nil (p : Progress) : p.after [] = p := rfl

@[simp] theorem after_cons (p : Progress) (e : Element) (es : List Element) :
    p.after (e :: es) = (p.push e).after es := rfl

@[simp] theorem after_append (p : Progress) (as bs : List Element) :
    p.after (as ++ bs) = (p.after as).after bs := by
  simp [after]

end Progress

/-- Each element may stand where it stands, from a progress on. -/
def Legal (maxId : Nat) : Progress → List Element → Prop
  | _, [] => True
  | p, e :: es => p.admits maxId e = true ∧ Legal maxId (p.push e) es

@[simp] theorem legal_nil (maxId : Nat) (p : Progress) : Legal maxId p [] := trivial

@[simp] theorem legal_cons (maxId : Nat) (p : Progress) (e : Element) (es : List Element) :
    Legal maxId p (e :: es) ↔ p.admits maxId e = true ∧ Legal maxId (p.push e) es := Iff.rfl

@[simp] theorem legal_append (maxId : Nat) (p : Progress) (as bs : List Element) :
    Legal maxId p (as ++ bs) ↔ Legal maxId p as ∧ Legal maxId (p.after as) bs := by
  induction as generalizing p with
  | nil => simp
  | cons e as ih => simp [ih, and_assoc]

/-- The references of a legal list are in range. -/
theorem Legal.id_le {maxId : Nat} {p : Progress} {es : List Element} (h : Legal maxId p es) :
    ∀ id ∈ ids es, id ≤ maxId := by
  induction es generalizing p with
  | nil => simp
  | cons e es ih =>
    obtain ⟨he, hes⟩ := h
    rcases e with o | n
    · simpa using ih hes
    · simp only [Progress.admits, Bool.and_eq_true, decide_eq_true_eq] at he
      simpa using ⟨he.2, ih hes⟩

/-! ## Places and operands -/

namespace Place

/-- An operand ends in front of the place. -/
def endsOperand : Place → Bool
  | afterRef | afterClose => true
  | start | afterBinary | afterOpen | afterNot => false

/-- An operand may begin at the place. Behind a `not` only a primary may. -/
def beginsOperand : Place → Bool
  | start | afterBinary | afterOpen => true
  | afterRef | afterClose | afterNot => false

theorem endsOperand_of_beginsOperand {l : Place} (h : l.beginsOperand = true) :
    l.endsOperand = false := by
  cases l <;> simp_all [beginsOperand, endsOperand]

@[simp] theorem accepts_ref (l : Place) (id : Nat) : l.accepts (.ref id) = !l.endsOperand := by
  cases l <;> rfl

@[simp] theorem accepts_openParen (l : Place) :
    l.accepts (.op .openParen) = !l.endsOperand := by
  cases l <;> rfl

@[simp] theorem accepts_not (l : Place) : l.accepts (.op .not) = l.beginsOperand := by
  cases l <;> rfl

@[simp] theorem accepts_closeParen (l : Place) :
    l.accepts (.op .closeParen) = l.endsOperand := by
  cases l <;> rfl

@[simp] theorem accepts_connective (l : Place) (b : Connective) :
    l.accepts (.op b.val) = l.endsOperand := by
  rcases connective_eq b with ho | ho | ho <;> rw [ho] <;> cases l <;> rfl

end Place

namespace Progress

variable {p : Progress} {maxId : Nat}

theorem accepts_of_admits {e : Element} (h : p.admits maxId e = true) :
    p.place.accepts e = true := by
  unfold admits at h
  exact (Bool.and_eq_true_iff.mp h).1

theorem admits_ref {id : Nat} (h : p.place.endsOperand = false) (hid : id ≤ maxId) :
    p.admits maxId (.ref id) = true := by
  simp [admits, h, hid]

theorem admits_openParen (h : p.place.endsOperand = false) :
    p.admits maxId (.op .openParen) = true := by
  simp [admits, h]

theorem admits_not (h : p.place.beginsOperand = true) : p.admits maxId (.op .not) = true := by
  simp [admits, h]

theorem admits_closeParen (h : p.place.endsOperand = true) (hd : 0 < p.depth) :
    p.admits maxId (.op .closeParen) = true := by
  simp [admits, h, hd]

theorem admits_connective (b : Connective) (h : p.place.endsOperand = true) :
    p.admits maxId (.op b.val) = true := by
  unfold admits
  rw [Place.accepts_connective, h]
  rcases connective_eq b with ho | ho | ho <;> rw [ho] <;> rfl

theorem push_connective (b : Connective) : p.push (.op b.val) = ⟨.afterBinary, p.depth⟩ := by
  rcases connective_eq b with ho | ho | ho <;> simp [ho, push, Place.behind]

end Progress

/-! ## Sentences are legal -/

/-- The list may stand here. An operand ends it, and it closes the parentheses that it opens. -/
structure Spans (maxId : Nat) (p : Progress) (es : List Element) : Prop where
  legal : Legal maxId p es
  endsOperand : (p.after es).place.endsOperand = true
  depth_eq : (p.after es).depth = p.depth

theorem Spans.join {maxId : Nat} {p : Progress} {as bs : List Element} (b : Connective)
    (ha : Spans maxId p as) (hb : Spans maxId ⟨.afterBinary, p.depth⟩ bs) :
    Spans maxId p (as ++ .op b.val :: bs) := by
  have hpush : (p.after as).push (.op b.val) = ⟨.afterBinary, p.depth⟩ := by
    rw [Progress.push_connective, ha.depth_eq]
  refine ⟨?_, ?_, ?_⟩
  · rw [legal_append, legal_cons, hpush]
    exact ⟨ha.legal, Progress.admits_connective b ha.endsOperand, hb.legal⟩
  · rw [Progress.after_append, Progress.after_cons, hpush]
    exact hb.endsOperand
  · rw [Progress.after_append, Progress.after_cons, hpush]
    exact hb.depth_eq

theorem Spans.group {maxId : Nat} {p : Progress} {es : List Element}
    (hp : p.place.endsOperand = false) (h : Spans maxId ⟨.afterOpen, p.depth + 1⟩ es) :
    Spans maxId p (.op .openParen :: (es ++ [.op .closeParen])) := by
  have hpush : p.push (.op .openParen) = ⟨.afterOpen, p.depth + 1⟩ := rfl
  have hd := h.depth_eq
  refine ⟨?_, ?_, ?_⟩
  · rw [legal_cons, hpush, legal_append]
    refine ⟨Progress.admits_openParen hp, h.legal, ?_, trivial⟩
    exact Progress.admits_closeParen h.endsOperand (by rw [hd]; exact Nat.succ_pos _)
  · rw [Progress.after_cons, Progress.after_append]
    rfl
  · rw [Progress.after_cons, hpush, Progress.after_append]
    simp [Progress.push, hd]

mutual

theorem spans_sentence {maxId : Nat} (s : Sentence) {p : Progress}
    (hp : p.place.beginsOperand = true) (hs : ∀ id ∈ ids s.elements, id ≤ maxId) :
    Spans maxId p s.elements := by
  match s with
  | .operand u =>
    simp only [Sentence.elements] at hs ⊢
    exact spans_operand u hp hs
  | .join u b rest =>
    simp only [Sentence.elements, ids_append, ids_cons_op, List.mem_append] at hs ⊢
    refine Spans.join b (spans_operand u hp fun id hid => hs id (Or.inl hid)) ?_
    exact spans_sentence rest rfl fun id hid => hs id (Or.inr hid)

theorem spans_operand {maxId : Nat} (u : Operand) {p : Progress}
    (hp : p.place.beginsOperand = true) (hu : ∀ id ∈ ids u.elements, id ≤ maxId) :
    Spans maxId p u.elements := by
  match u with
  | .plain q =>
    simp only [Operand.elements] at hu ⊢
    exact spans_primary q (Place.endsOperand_of_beginsOperand hp) hu
  | .negated q =>
    simp only [Operand.elements, ids_cons_op] at hu ⊢
    have h := spans_primary q (p := p.push (.op .not)) rfl hu
    exact ⟨⟨Progress.admits_not hp, h.legal⟩, h.endsOperand, h.depth_eq⟩

theorem spans_primary {maxId : Nat} (q : Primary) {p : Progress}
    (hp : p.place.endsOperand = false) (hq : ∀ id ∈ ids q.elements, id ≤ maxId) :
    Spans maxId p q.elements := by
  match q with
  | .ref id =>
    simp only [Primary.elements, ids_cons_ref, List.mem_cons, forall_eq_or_imp] at hq ⊢
    exact ⟨⟨Progress.admits_ref hp hq.1, trivial⟩, rfl, rfl⟩
  | .group s =>
    simp only [Primary.elements, ids_cons_op, ids_append, ids_nil, List.append_nil] at hq ⊢
    exact Spans.group hp (spans_sentence s rfl hq)

end

/-! ## Legal lists are sentences -/

/-- What stands behind an operand at a depth: operands that are joined to it, and the closing of
each open parenthesis. -/
inductive Continues : Nat → List Element → Prop
  | done : Continues 0 []
  | close {depth : Nat} {es : List Element} :
      Continues depth es → Continues (depth + 1) (.op .closeParen :: es)
  | join {depth : Nat} {es : List Element} (b : Connective) (u : Operand) :
      Continues depth es → Continues depth (.op b.val :: (u.elements ++ es))

/-- Outside of parentheses an operand and what continues it make up a sentence. -/
theorem Continues.sentence {depth : Nat} {es : List Element} (h : Continues depth es)
    (hd : depth = 0) (u : Operand) : ∃ s : Sentence, s.elements = u.elements ++ es := by
  induction h generalizing u with
  | done => exact ⟨.operand u, by simp [Sentence.elements]⟩
  | close => exact absurd hd (Nat.succ_ne_zero _)
  | join b w _ ih =>
    obtain ⟨s, hs⟩ := ih hd w
    exact ⟨.join u b s, by simp [Sentence.elements, hs]⟩

/-- Inside of parentheses an operand and what continues it make up a sentence in front of the
parenthesis that closes. -/
theorem Continues.group {depth d : Nat} {es : List Element} (h : Continues depth es)
    (hd : depth = d + 1) (u : Operand) :
    ∃ (s : Sentence) (rest : List Element),
      u.elements ++ es = s.elements ++ .op .closeParen :: rest ∧ Continues d rest := by
  induction h generalizing u with
  | done => cases hd
  | @close _ rest hc _ =>
    cases hd
    exact ⟨.operand u, rest, by simp [Sentence.elements], hc⟩
  | join b w _ ih =>
    obtain ⟨s, rest, hs, hc⟩ := ih hd w
    exact ⟨.join u b s, rest, by simp [Sentence.elements, hs], hc⟩

/-- What a list must be that may stand at a progress and ends a sentence. -/
def Completes (p : Progress) (es : List Element) : Prop :=
  match p.place with
  | .afterRef | .afterClose => Continues p.depth es
  | .start | .afterBinary | .afterOpen =>
    ∃ (u : Operand) (rest : List Element), es = u.elements ++ rest ∧ Continues p.depth rest
  | .afterNot =>
    ∃ (q : Primary) (rest : List Element), es = q.elements ++ rest ∧ Continues p.depth rest

theorem completes_of_primary {p : Progress} (hp : p.place.endsOperand = false) (q : Primary)
    {rest : List Element} (h : Continues p.depth rest) : Completes p (q.elements ++ rest) := by
  unfold Completes
  rcases hl : p.place
  case afterRef | afterClose => simp [hl, Place.endsOperand] at hp
  case afterNot => exact ⟨q, rest, rfl, h⟩
  case start | afterBinary | afterOpen =>
    exact ⟨.plain q, rest, by simp only [Operand.elements], h⟩

theorem completes_of_operand {p : Progress} (hp : p.place.beginsOperand = true) (u : Operand)
    {rest : List Element} (h : Continues p.depth rest) : Completes p (u.elements ++ rest) := by
  unfold Completes
  rcases hl : p.place
  case afterRef | afterClose | afterNot => simp [hl, Place.beginsOperand] at hp
  case start | afterBinary | afterOpen => exact ⟨u, rest, rfl, h⟩

theorem completes_of_endsOperand {p : Progress} (hp : p.place.endsOperand = true)
    {es : List Element} (h : Continues p.depth es) : Completes p es := by
  unfold Completes
  rcases hl : p.place <;> simp_all [Place.endsOperand]

/-- An element that may stand at a progress keeps what is behind it complete. -/
theorem Completes.cons {maxId : Nat} {p : Progress} {e : Element} {es : List Element}
    (ha : p.admits maxId e = true) (h : Completes (p.push e) es) : Completes p (e :: es) := by
  have hacc : p.place.accepts e = true := Progress.accepts_of_admits ha
  rcases e with o | id
  · by_cases hb : o.isBinary = true
    · have hp : p.place.endsOperand = true := by
        rwa [Place.accepts_connective p.place ⟨o, hb⟩] at hacc
      rw [Progress.push_connective ⟨o, hb⟩] at h
      obtain ⟨u, rest, rfl, hc⟩ := h
      exact completes_of_endsOperand hp (.join ⟨o, hb⟩ u hc)
    · cases o with
      | and | or | xor => simp [LogicOp.isBinary] at hb
      | not =>
        have hp : p.place.beginsOperand = true := by simpa using hacc
        obtain ⟨q, rest, rfl, hc⟩ := h
        have hu := completes_of_operand hp (.negated q) hc
        simpa only [Operand.elements, List.cons_append] using hu
      | openParen =>
        have hp : p.place.endsOperand = false := by simpa using hacc
        obtain ⟨u, rest, rfl, hc⟩ := h
        obtain ⟨s, rest', hs, hc'⟩ := hc.group rfl u
        have hq := completes_of_primary hp (.group s) hc'
        simpa only [Primary.elements, List.cons_append, List.append_assoc, List.nil_append,
          hs] using hq
      | closeParen =>
        have hp : p.place.endsOperand = true := by simpa using hacc
        have hd : 0 < p.depth := by
          simpa [Progress.admits, hp] using ha
        have hc : Continues (p.depth - 1 + 1) (.op .closeParen :: es) := Continues.close h
        rw [Nat.sub_add_cancel hd] at hc
        exact completes_of_endsOperand hp hc
  · have hp : p.place.endsOperand = false := by simpa using hacc
    have hq := completes_of_primary hp (.ref id) h
    simpa only [Primary.elements, List.cons_append, List.nil_append] using hq

theorem Legal.completes {maxId : Nat} {p : Progress} {es : List Element} (h : Legal maxId p es)
    (he : (p.after es).place.endsOperand = true) (hd : (p.after es).depth = 0) :
    Completes p es := by
  induction es generalizing p with
  | nil =>
    rw [Progress.after_nil] at he hd
    refine completes_of_endsOperand he ?_
    rw [hd]
    exact .done
  | cons e es ih => exact Completes.cons h.1 (ih h.2 he hd)

/-- The places recognize the grammar. -/
theorem isSentence_iff {maxId : Nat} {es : List Element} :
    IsSentence maxId es ↔ Legal maxId .start es ∧
      (Progress.start.after es).place.endsOperand = true ∧
      (Progress.start.after es).depth = 0 := by
  constructor
  · rintro ⟨⟨s, rfl⟩, hs⟩
    have h := spans_sentence s (p := .start) rfl hs
    exact ⟨h.legal, h.endsOperand, h.depth_eq⟩
  · rintro ⟨hl, he, hd⟩
    obtain ⟨u, rest, rfl, hc⟩ := hl.completes he hd
    exact ⟨hc.sentence rfl u, hl.id_le⟩

end Verdict.Formula
