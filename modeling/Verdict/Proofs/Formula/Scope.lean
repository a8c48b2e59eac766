-- The scope of a `not` is the reference or the group behind it. In a syntax tree
-- the `not`s over a reference are counted on the way down to it; along a list
-- they are those in front of the open groups and one directly in front. Both
-- ways of counting agree on every sentence.
import Verdict.Proofs.Formula.Recognition

namespace Verdict.Formula

/-! ## Syntax trees -/

mutual

/-- The references of a sentence in their order, each with the number of `not`s that it is in the
scope of, given how many the sentence is in the scope of. -/
def Sentence.scopes (n : Nat) : Sentence → List (Nat × Nat)
  | .operand u => u.scopes n
  | .join u _ rest => u.scopes n ++ rest.scopes n

def Operand.scopes (n : Nat) : Operand → List (Nat × Nat)
  | .plain p => p.scopes n
  | .negated p => p.scopes (n + 1)

def Primary.scopes (n : Nat) : Primary → List (Nat × Nat)
  | .ref id => [(id, n)]
  | .group s => s.scopes n

end

/-! ## Lists -/

/-- What stands in front of the next element: its place, and the open groups, the innermost first,
each with whether a `not` stands in front of it. -/
structure Scope where
  place : Place
  groups : List Bool
deriving DecidableEq, Repr

namespace Scope

def start : Scope := ⟨.start, []⟩

/-- The progress leaves out which of the groups are negated. -/
def progress (c : Scope) : Progress := ⟨c.place, c.groups.length⟩

/-- The number of `not`s whose scope goes on here. -/
def negations (c : Scope) : Nat := c.groups.count true + if c.place = .afterNot then 1 else 0

/-- Behind an element. -/
def push (c : Scope) (e : Element) : Scope :=
  ⟨.behind e, match e with
    | .op .openParen => (c.place == .afterNot) :: c.groups
    | .op .closeParen => c.groups.tail
    | _ => c.groups⟩

/-- Behind a list of elements. -/
def after (c : Scope) (es : List Element) : Scope := es.foldl push c

@[simp] theorem after_nil (c : Scope) : c.after [] = c := rfl

@[simp] theorem after_cons (c : Scope) (e : Element) (es : List Element) :
    c.after (e :: es) = (c.push e).after es := rfl

@[simp] theorem after_append (c : Scope) (as bs : List Element) :
    c.after (as ++ bs) = (c.after as).after bs := by
  simp [after]

theorem progress_push (c : Scope) (e : Element) : (c.push e).progress = c.progress.push e := by
  rcases e with o | id
  · cases o <;> simp [push, progress, Progress.push]
  · rfl

theorem progress_after (c : Scope) (es : List Element) :
    (c.after es).progress = c.progress.after es := by
  induction es generalizing c with
  | nil => rfl
  | cons e es ih => rw [after_cons, ih, progress_push, Progress.after_cons]

theorem place_push_ne {c : Scope} {e : Element} (he : e ≠ .op .not) :
    (c.push e).place ≠ .afterNot := by
  rcases e with o | id
  · cases o with
    | not => exact absurd rfl he
    | and | or | xor | openParen | closeParen => simp [push, Place.behind]
  · simp [push, Place.behind]

theorem negations_of_ne {c : Scope} (h : c.place ≠ .afterNot) :
    c.negations = c.groups.count true := by
  unfold negations
  rw [if_neg h, Nat.add_zero]

theorem negations_push_not {c : Scope} (h : c.place ≠ .afterNot) :
    (c.push (.op .not)).negations = c.negations + 1 := by
  rw [negations_of_ne h]
  rfl

/-- A group hands on the `not`s in front of it. -/
theorem negations_push_openParen (c : Scope) :
    (c.push (.op .openParen)).negations = c.negations := by
  rw [negations_of_ne (place_push_ne (by decide))]
  unfold negations push
  by_cases h : c.place = .afterNot <;> simp [h]

theorem push_connective (c : Scope) (b : Connective) :
    c.push (.op b.val) = ⟨.afterBinary, c.groups⟩ := by
  rcases connective_eq b with ho | ho | ho <;> simp [ho, push, Place.behind]

end Scope

/-- The references of a list, each with the number of `not`s that it is in the scope of. -/
def covered (c : Scope) : List Element → List (Nat × Nat)
  | [] => []
  | .ref id :: es => (id, c.negations) :: covered (c.push (.ref id)) es
  | .op o :: es => covered (c.push (.op o)) es

theorem covered_append (c : Scope) (as bs : List Element) :
    covered c (as ++ bs) = covered c as ++ covered (c.after as) bs := by
  induction as generalizing c with
  | nil => rfl
  | cons e as ih =>
    rcases e with o | id
    · simp only [List.cons_append, covered, ih, Scope.after_cons]
    · simp only [List.cons_append, covered, ih, Scope.after_cons]

theorem map_fst_covered (c : Scope) (es : List Element) :
    (covered c es).map Prod.fst = ids es := by
  induction es generalizing c with
  | nil => rfl
  | cons e es ih =>
    rcases e with o | id
    · rw [covered, ih, ids_cons_op]
    · rw [covered, List.map_cons, ih, ids_cons_ref]

/-- The entry of a reference is found by the number of references in front of it. -/
theorem getElem?_covered (c : Scope) (front back : List Element) (id : Nat) :
    (covered c (front ++ .ref id :: back))[(ids front).length]? =
      some (id, (c.after front).negations) := by
  have hlength : (ids front).length = (covered c front).length := by
    rw [← map_fst_covered c front, List.length_map]
  rw [covered_append, hlength, List.getElem?_append_right (Nat.le_refl _), Nat.sub_self]
  rfl

/-! ## Trees as lists -/

/-- The references of the elements are in these scopes. An operand ends the elements, and they
close the groups that they open. -/
structure Covers (c : Scope) (es : List Element) (scopes : List (Nat × Nat)) : Prop where
  covered_eq : covered c es = scopes
  groups_eq : (c.after es).groups = c.groups
  endsOperand : (c.after es).place.endsOperand = true

namespace Covers

variable {c : Scope} {as bs es : List Element} {ss ts : List (Nat × Nat)}

theorem ref (c : Scope) (id : Nat) : Covers c [.ref id] [(id, c.negations)] := ⟨rfl, rfl, rfl⟩

theorem not (h : Covers (c.push (.op .not)) es ss) : Covers c (.op .not :: es) ss :=
  ⟨h.covered_eq, h.groups_eq, h.endsOperand⟩

theorem join (b : Connective) (ha : Covers c as ss) (hb : Covers ⟨.afterBinary, c.groups⟩ bs ts) :
    Covers c (as ++ .op b.val :: bs) (ss ++ ts) := by
  have hpush : (c.after as).push (.op b.val) = ⟨.afterBinary, c.groups⟩ := by
    rw [Scope.push_connective, ha.groups_eq]
  refine ⟨?_, ?_, ?_⟩
  · rw [covered_append, covered, hpush, ha.covered_eq, hb.covered_eq]
  · rw [Scope.after_append, Scope.after_cons, hpush]
    exact hb.groups_eq
  · rw [Scope.after_append, Scope.after_cons, hpush]
    exact hb.endsOperand

theorem group (h : Covers (c.push (.op .openParen)) es ss) :
    Covers c (.op .openParen :: (es ++ [.op .closeParen])) ss := by
  refine ⟨?_, ?_, ?_⟩
  · rw [covered, covered_append, h.covered_eq]
    exact List.append_nil _
  · rw [Scope.after_cons, Scope.after_append]
    show ((c.push (.op .openParen)).after es).groups.tail = c.groups
    rw [h.groups_eq]
    rfl
  · rw [Scope.after_cons, Scope.after_append]
    rfl

end Covers

mutual

theorem covers_sentence (s : Sentence) {c : Scope} (hc : c.place ≠ .afterNot) :
    Covers c s.elements (s.scopes c.negations) := by
  match s with
  | .operand u =>
    simp only [Sentence.elements, Sentence.scopes]
    exact covers_operand u hc
  | .join u b rest =>
    have hrest := covers_sentence rest (c := ⟨.afterBinary, c.groups⟩) (by simp)
    rw [Scope.negations_of_ne (by simp), ← Scope.negations_of_ne hc] at hrest
    simp only [Sentence.elements, Sentence.scopes]
    exact (covers_operand u hc).join b hrest

theorem covers_operand (u : Operand) {c : Scope} (hc : c.place ≠ .afterNot) :
    Covers c u.elements (u.scopes c.negations) := by
  match u with
  | .plain p =>
    simp only [Operand.elements, Operand.scopes]
    exact covers_primary p c
  | .negated p =>
    have h := covers_primary p (c.push (.op .not))
    rw [Scope.negations_push_not hc] at h
    simp only [Operand.elements, Operand.scopes]
    exact h.not

theorem covers_primary (p : Primary) (c : Scope) :
    Covers c p.elements (p.scopes c.negations) := by
  match p with
  | .ref id =>
    simp only [Primary.elements, Primary.scopes]
    exact .ref c id
  | .group s =>
    have h := covers_sentence s (c := c.push (.op .openParen)) (Scope.place_push_ne (by decide))
    rw [Scope.negations_push_openParen] at h
    simp only [Primary.elements, Primary.scopes]
    exact h.group

end

/-- The entry of a reference in a sentence, by what stands in front of the reference. -/
theorem Sentence.getElem?_scopes {s : Sentence} {front back : List Element} {id : Nat}
    (h : s.elements = front ++ .ref id :: back) :
    (s.scopes 0)[(ids front).length]? = some (id, (Scope.start.after front).negations) := by
  have hs : covered .start s.elements = s.scopes 0 :=
    (covers_sentence s (c := .start) (by decide)).covered_eq
  rw [← hs, h, getElem?_covered]

end Verdict.Formula
