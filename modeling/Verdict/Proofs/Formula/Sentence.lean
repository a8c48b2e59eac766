-- The grammar of formulas. A sentence is a chain of operands with a binary
-- operator between each two. An operand is a primary, negated or not, and a
-- primary is a reference or a sentence in parentheses. The meaning of a
-- sentence groups to the right, and no operator binds closer than another.
import Verdict.Formula.Repair

namespace Verdict.Formula

/-! ## Syntax trees -/

/-- An operator that stands between two operands. -/
abbrev Connective := { o : LogicOp // o.isBinary = true }

theorem connective_eq (b : Connective) : b.val = .and ∨ b.val = .or ∨ b.val = .xor := by
  have hb := b.property
  unfold LogicOp.isBinary at hb
  rcases ho : b.val <;> simp_all

theorem connective_ne (b : Connective) {o : LogicOp} (h : o.isBinary = false) : b.val ≠ o := by
  rintro rfl
  exact absurd b.property (by simp [h])

mutual

/-- An operand, or an operand joined to the rest of a chain. -/
inductive Sentence where
  | operand (u : Operand)
  | join (u : Operand) (b : Connective) (rest : Sentence)

inductive Operand where
  | plain (p : Primary)
  | negated (p : Primary)

inductive Primary where
  | ref (id : Nat)
  | group (s : Sentence)

end

/-! ## What a tree stands for -/

mutual

/-- The elements of a sentence, in the order in which they are written. -/
def Sentence.elements : Sentence → List Element
  | .operand u => u.elements
  | .join u b rest => u.elements ++ .op b.val :: rest.elements

def Operand.elements : Operand → List Element
  | .plain p => p.elements
  | .negated p => .op .not :: p.elements

def Primary.elements : Primary → List Element
  | .ref id => [.ref id]
  | .group s => .op .openParen :: (s.elements ++ [.op .closeParen])

end

mutual

/-- The meaning of a sentence, given the values of the conditions. The right operand of an
operator is all the rest of the chain. -/
def Sentence.meaning (v : Nat → Bool) : Sentence → Bool
  | .operand u => u.meaning v
  | .join u b rest => b.val.combine (u.meaning v) (rest.meaning v)

def Operand.meaning (v : Nat → Bool) : Operand → Bool
  | .plain p => p.meaning v
  | .negated p => !p.meaning v

def Primary.meaning (v : Nat → Bool) : Primary → Bool
  | .ref id => v id
  | .group s => s.meaning v

end

theorem Primary.elements_ne_nil (p : Primary) : p.elements ≠ [] := by
  cases p <;> simp [Primary.elements]

theorem Operand.elements_ne_nil (u : Operand) : u.elements ≠ [] := by
  cases u <;> simp [Operand.elements, Primary.elements_ne_nil]

theorem Sentence.elements_ne_nil (s : Sentence) : s.elements ≠ [] := by
  cases s <;> simp [Sentence.elements, Operand.elements_ne_nil]

/-! ## Sentences as lists -/

@[simp] theorem ids_nil : ids [] = [] := rfl

@[simp] theorem ids_cons_op (o : LogicOp) (es : List Element) : ids (.op o :: es) = ids es := rfl

@[simp] theorem ids_cons_ref (id : Nat) (es : List Element) :
    ids (.ref id :: es) = id :: ids es := rfl

/-- The list is a sentence over the ids up to `maxId`. -/
def IsSentence (maxId : Nat) (es : List Element) : Prop :=
  (∃ s : Sentence, s.elements = es) ∧ ∀ id ∈ ids es, id ≤ maxId

theorem IsSentence.ne_nil {maxId : Nat} {es : List Element} (h : IsSentence maxId es) :
    es ≠ [] := by
  obtain ⟨⟨s, rfl⟩, -⟩ := h
  exact s.elements_ne_nil

/-- The list is a sentence over the ids up to `maxId`, and refers to each of them. -/
def IsComplete (maxId : Nat) (es : List Element) : Prop :=
  IsSentence maxId es ∧ ∀ id ≤ maxId, id ∈ ids es

/-! ## References joined to the end of a chain -/

/-- An operand with references joined to it with `or`. -/
def Operand.orRefs : Operand → List Nat → Sentence
  | u, [] => .operand u
  | u, id :: rest => .join u ⟨.or, rfl⟩ (Operand.orRefs (.plain (.ref id)) rest)

/-- The sentence with references joined to its last operand with `or`. -/
def Sentence.orRefs : Sentence → List Nat → Sentence
  | .operand u, extra => u.orRefs extra
  | .join u b rest, extra => .join u b (rest.orRefs extra)

/-- The meaning of a sentence with a value joined to its last operand with `or`. -/
def Sentence.meaningOr (v : Nat → Bool) (last : Bool) : Sentence → Bool
  | .operand u => u.meaning v || last
  | .join u b rest => b.val.combine (u.meaning v) (rest.meaningOr v last)

theorem Operand.elements_orRefs (u : Operand) (extra : List Nat) :
    (u.orRefs extra).elements = u.elements ++ extra.flatMap fun id => [.op .or, .ref id] := by
  induction extra generalizing u with
  | nil => simp [Operand.orRefs, Sentence.elements]
  | cons id rest ih =>
    simp only [Operand.orRefs, Sentence.elements, ih, Operand.elements, Primary.elements]
    simp

theorem Operand.meaning_orRefs (v : Nat → Bool) (u : Operand) (extra : List Nat) :
    (u.orRefs extra).meaning v = (u.meaning v || extra.any v) := by
  induction extra generalizing u with
  | nil => simp [Operand.orRefs, Sentence.meaning]
  | cons id rest ih =>
    simp only [Operand.orRefs, Sentence.meaning, ih, Operand.meaning, Primary.meaning]
    simp [LogicOp.combine]

theorem Sentence.elements_orRefs (s : Sentence) (extra : List Nat) :
    (s.orRefs extra).elements = s.elements ++ extra.flatMap fun id => [.op .or, .ref id] := by
  match s with
  | .operand u =>
    simp only [Sentence.orRefs, Sentence.elements]
    exact u.elements_orRefs extra
  | .join u b rest =>
    simp only [Sentence.orRefs, Sentence.elements, rest.elements_orRefs extra]
    simp

theorem Sentence.meaning_orRefs (v : Nat → Bool) (s : Sentence) (extra : List Nat) :
    (s.orRefs extra).meaning v = s.meaningOr v (extra.any v) := by
  match s with
  | .operand u =>
    simp only [Sentence.orRefs, Sentence.meaningOr]
    exact u.meaning_orRefs v extra
  | .join u b rest =>
    simp only [Sentence.orRefs, Sentence.meaning, Sentence.meaningOr, rest.meaning_orRefs v extra]

end Verdict.Formula
