-- The trees of sentences. The tree that is built from a sentence has the
-- meaning of the sentence, and nothing is reported on the way.
import Verdict.Proofs.Formula.Sentence
import Verdict.Tree

namespace Verdict.Tree

open Formula

/-! ## Groups -/

/-- An element that is no parenthesis stays where it is when a group is parted. -/
theorem splitGroup?_cons_of_ne {e : Element} (depth : Nat) (es : List Element)
    (ho : e ≠ .op .openParen) (hc : e ≠ .op .closeParen) :
    splitGroup? depth (e :: es) = (splitGroup? depth es).map fun (g, r) => (e :: g, r) := by
  rcases e with o | id
  · cases o <;> simp_all [splitGroup?]
  · simp [splitGroup?]

mutual

/-- The parentheses of a sentence close inside of it, so a group that begins with the sentence
ends behind it. -/
theorem splitGroup?_sentence (s : Sentence) (depth : Nat) (es : List Element) :
    splitGroup? depth (s.elements ++ es) =
      (splitGroup? depth es).map fun (g, r) => (s.elements ++ g, r) := by
  match s with
  | .operand u => simpa only [Sentence.elements] using splitGroup?_operand u depth es
  | .join u b rest =>
    have ho : Element.op b.val ≠ .op .openParen := by simpa using connective_ne b rfl
    have hc : Element.op b.val ≠ .op .closeParen := by simpa using connective_ne b rfl
    simp only [Sentence.elements, List.append_assoc, List.cons_append]
    rw [splitGroup?_operand, splitGroup?_cons_of_ne _ _ ho hc, splitGroup?_sentence]
    simp [Function.comp_def]

theorem splitGroup?_operand (u : Operand) (depth : Nat) (es : List Element) :
    splitGroup? depth (u.elements ++ es) =
      (splitGroup? depth es).map fun (g, r) => (u.elements ++ g, r) := by
  match u with
  | .plain p => simpa only [Operand.elements] using splitGroup?_primary p depth es
  | .negated p =>
    simp only [Operand.elements, List.cons_append]
    rw [splitGroup?_cons_of_ne _ _ (by simp) (by simp), splitGroup?_primary]
    simp [Function.comp_def]

theorem splitGroup?_primary (p : Primary) (depth : Nat) (es : List Element) :
    splitGroup? depth (p.elements ++ es) =
      (splitGroup? depth es).map fun (g, r) => (p.elements ++ g, r) := by
  match p with
  | .ref id => simp [Primary.elements, splitGroup?]
  | .group s =>
    simp only [Primary.elements, List.cons_append, List.append_assoc, List.nil_append]
    rw [splitGroup?, splitGroup?_sentence, splitGroup?]
    simp [Function.comp_def]

end

/-- The sentence in a pair of parentheses is the group that they enclose. -/
theorem splitGroup?_closed (s : Sentence) (es : List Element) :
    splitGroup? 0 (s.elements ++ .op .closeParen :: es) = some (s.elements, es) := by
  rw [splitGroup?_sentence, splitGroup?]
  simp

theorem build_of_group {v : Nat → Bool} {start place : Nat} {negated : Bool}
    {es group rest : List Element} (h : splitGroup? 0 es = some (group, rest)) :
    build v start place negated (.op .openParen :: es) =
      ((buildOperator v negated (build v (place + 1) (place + 1) false group).1
          (place + group.length + 2) rest).1,
        (build v (place + 1) (place + 1) false group).2 ++
          (buildOperator v negated (build v (place + 1) (place + 1) false group).1
            (place + group.length + 2) rest).2) := by
  rw [build]
  split
  · rename_i g r hs
    rw [h] at hs
    cases hs
    rfl
  · rename_i hs
    simp [h] at hs

/-- A group that ends the elements is the whole right operand. -/
theorem buildRight_of_group {v : Nat → Bool} {place : Nat} {es group : List Element}
    (h : splitGroup? 0 es = some (group, [])) :
    buildRight v place (.op .openParen :: es) = build v (place + 1) (place + 1) false group := by
  rw [buildRight]
  split
  · rename_i g hs
    rw [h] at hs
    cases hs
    rfl
  · rename_i hs
    exact absurd h (hs group)

theorem buildRight_of_more {v : Nat → Bool} {place : Nat} {e : Element}
    {es group rest : List Element} (h : splitGroup? 0 es = some (group, e :: rest)) :
    buildRight v place (.op .openParen :: es) =
      build v place place false (.op .openParen :: es) := by
  rw [buildRight]
  split
  · rename_i g hs
    simp [h] at hs
  · rfl

/-- A negated operand is built in the same way on the right as anywhere else. -/
theorem buildRight_negated (v : Nat → Bool) (place : Nat) (p : Primary) :
    buildRight v place (Sentence.operand (.negated p)).elements =
      build v place place false (Sentence.operand (.negated p)).elements := by
  simp only [Sentence.elements, Operand.elements]
  rw [buildRight]

/-- So is a chain, whatever its first operand is, because that does not end the elements. -/
theorem buildRight_join (v : Nat → Bool) (place : Nat) (u : Operand) (b : Connective)
    (rest : Sentence) :
    buildRight v place (Sentence.join u b rest).elements =
      build v place place false (Sentence.join u b rest).elements := by
  match u with
  | .plain (.ref id) =>
    simp only [Sentence.elements, Operand.elements, Primary.elements, List.cons_append,
      List.nil_append]
    rw [buildRight]
    simp
  | .plain (.group t) =>
    simp only [Sentence.elements, Operand.elements, Primary.elements, List.cons_append,
      List.append_assoc, List.nil_append]
    rw [buildRight_of_more (splitGroup?_closed t _)]
  | .negated p =>
    simp only [Sentence.elements, Operand.elements, List.cons_append]
    rw [buildRight]

/-! ## Building -/

/-- The tree has the value, and nothing was reported while it was built. -/
def Gives (built : Tree × List Report) (value : Bool) : Prop :=
  built.1.evaluate = value ∧ built.2 = []

/-- What is built goes on behind a left operand that has the value. -/
def GoesOn (v : Nat → Bool) (built : Tree × List Report) (value : Bool) (es : List Element) :
    Prop :=
  ∃ negated left place, built = buildOperator v negated left place es ∧
    (left.evaluate ^^ negated) = value

section

variable {v : Nat → Bool} {built : Tree × List Report} {value : Bool}

/-- A left operand with nothing behind it gives the value of the tree. -/
theorem GoesOn.gives_value (h : GoesOn v built value []) : Gives built value := by
  obtain ⟨negated, left, place, rfl, hv⟩ := h
  rw [buildOperator]
  exact ⟨by simp [evaluate, LogicOp.combine, hv], rfl⟩

/-- An operator behind a left operand joins it to the tree of the rest. -/
theorem GoesOn.gives_combine {right : Bool} {b : Connective} {es : List Element}
    (h : GoesOn v built value (.op b.val :: es))
    (hr : ∀ place, Gives (buildRight v place es) right) :
    Gives built (b.val.combine value right) := by
  obtain ⟨negated, left, place, rfl, hv⟩ := h
  obtain ⟨he, hn⟩ := hr (place + 1)
  have hbuild : buildOperator v negated left place (.op b.val :: es) =
      (.node negated left b.val (buildRight v (place + 1) es).1,
        (buildRight v (place + 1) es).2) := by
    have hb := b.property
    rw [buildOperator]
    · simp [hb]
    · simpa using connective_ne b rfl
  rw [hbuild]
  exact ⟨by simp only [evaluate, hv, he], hn⟩

end

mutual

/-- The tree of a sentence has its meaning, where an operand is due and also on the right of an
operator, where the whole rest is one operand. -/
theorem gives_sentence (v : Nat → Bool) (s : Sentence) :
    (∀ start place, Gives (build v start place false s.elements) (s.meaning v)) ∧
      ∀ place, Gives (buildRight v place s.elements) (s.meaning v) := by
  have hbuild : ∀ start place, Gives (build v start place false s.elements) (s.meaning v) := by
    intro start place
    match s with
    | .operand u =>
      have h := goesOn_operand v u start place []
      rw [List.append_nil] at h
      simpa only [Sentence.elements, Sentence.meaning] using h.gives_value
    | .join u b rest =>
      have h := goesOn_operand v u start place (.op b.val :: rest.elements)
      simpa only [Sentence.elements, Sentence.meaning] using
        h.gives_combine (gives_sentence v rest).2
  refine ⟨hbuild, ?_⟩
  intro place
  match s with
  | .operand (.plain (.ref id)) =>
    simp only [Sentence.elements, Operand.elements, Primary.elements]
    rw [buildRight]
    exact ⟨rfl, rfl⟩
  | .operand (.plain (.group t)) =>
    simp only [Sentence.elements, Operand.elements, Primary.elements]
    rw [buildRight_of_group (splitGroup?_closed t [])]
    exact (gives_sentence v t).1 _ _
  | .operand (.negated p) =>
    rw [buildRight_negated]
    exact hbuild place place
  | .join u b rest =>
    rw [buildRight_join]
    exact hbuild place place

theorem goesOn_operand (v : Nat → Bool) (u : Operand) (start place : Nat) (es : List Element) :
    GoesOn v (build v start place false (u.elements ++ es)) (u.meaning v) es := by
  match u with
  | .plain p =>
    simpa only [Operand.elements, Operand.meaning, Bool.xor_false] using
      goesOn_primary v p start place false es
  | .negated p =>
    have h := goesOn_primary v p start (place + 1) true es
    simpa only [Operand.elements, Operand.meaning, List.cons_append, build, Bool.not_false,
      Bool.xor_true] using h

theorem goesOn_primary (v : Nat → Bool) (p : Primary) (start place : Nat) (negated : Bool)
    (es : List Element) :
    GoesOn v (build v start place negated (p.elements ++ es)) (p.meaning v ^^ negated) es := by
  match p with
  | .ref id =>
    simp only [Primary.elements, List.cons_append, List.nil_append]
    rw [build]
    exact ⟨negated, .leaf (v id), place + 1, rfl, rfl⟩
  | .group s =>
    simp only [Primary.elements, List.cons_append, List.append_assoc, List.nil_append]
    obtain ⟨he, hn⟩ := (gives_sentence v s).1 (place + 1) (place + 1)
    rw [build_of_group (splitGroup?_closed s es)]
    refine ⟨negated, (build v (place + 1) (place + 1) false s.elements).1,
      place + s.elements.length + 2, ?_, ?_⟩
    · simp [hn]
    · rw [he, Primary.meaning]

end

end Verdict.Tree

namespace Verdict.Formula

/-! ## Evaluation -/

theorem evaluate_elements (r : Outcomes) (s : Sentence) :
    evaluate r s.elements = s.meaning r.holds := ((Tree.gives_sentence r.holds s).1 0 0).1

theorem treeReports_elements (r : Outcomes) (s : Sentence) : treeReports r s.elements = [] :=
  ((Tree.gives_sentence r.holds s).1 0 0).2

/-- A sentence is evaluated to its meaning: the chain groups to the right, no operator binds
closer than another, and a condition without an outcome counts as false. Nothing is reported. -/
theorem a_sentence_is_evaluated_to_its_meaning (s : Sentence) (r : Outcomes) :
    evaluate r s.elements = s.meaning r.holds ∧ treeReports r s.elements = [] :=
  ⟨evaluate_elements r s, treeReports_elements r s⟩

end Verdict.Formula
