-- The loop over a range builds the tree that the elements of the range have. Each
-- turn asks only for elements that are there and brings the loop nearer to its
-- end, and the tree of another range is only called for if that range lies inside
-- and is smaller. So the loop ends with a tree whatever the elements are.
import Mathlib.Logic.Relation
import Verdict.Proofs.Tree.Loop
import Verdict.Proofs.Tree.Meaning

namespace Verdict.Tree

variable {elements : List Element} {value : Nat → Bool}

/-! ## Slices -/

theorem length_slice {start finish : Nat} (h : finish ≤ elements.length) :
    ((Range.mk start finish).slice elements).length = finish - start := by
  rw [Range.slice, List.length_drop, List.length_take, Nat.min_eq_left h]

theorem slice_of_le {start finish : Nat} (h : finish ≤ start) :
    (Range.mk start finish).slice elements = [] := by
  rw [Range.slice, List.drop_eq_nil_iff, List.length_take]
  exact Nat.le_trans (Nat.min_le_left _ _) h

theorem slice_cons {place finish : Nat} {e : Element} (h : elements[place]? = some e)
    (hlt : place < finish) :
    (Range.mk place finish).slice elements = e :: (Range.mk (place + 1) finish).slice elements := by
  have htake : (elements.take finish)[place]? = some e := by
    rw [List.getElem?_take_of_lt hlt, h]
  obtain ⟨hplace, he⟩ := List.getElem?_eq_some_iff.mp htake
  simp only [Range.slice]
  rw [List.drop_eq_getElem_cons hplace, he]

/-- What stands first in a range is the slice of its first places, and what stands behind that is
the slice of the others. -/
theorem slice_append {start finish : Nat} {as bs : List Element}
    (h : (Range.mk start finish).slice elements = as ++ bs) :
    (Range.mk start (start + as.length)).slice elements = as ∧
      (Range.mk (start + as.length) finish).slice elements = bs := by
  simp only [Range.slice] at h ⊢
  constructor
  · have hlength : as.length ≤ finish - start := by
      have := congrArg List.length h
      simp only [List.length_drop, List.length_take, List.length_append] at this
      omega
    rw [List.drop_take] at h ⊢
    rw [Nat.add_sub_cancel_left, ← Nat.min_eq_left hlength, ← List.take_take, h, List.take_left]
  · rw [← List.drop_drop, h, List.drop_left]

/-! ## Groups -/

/-- A group ends with the parenthesis that closes it. -/
theorem eq_of_splitGroup? {depth : Nat} {es group rest : List Element}
    (h : splitGroup? depth es = some (group, rest)) :
    es = group ++ .op .closeParen :: rest := by
  fun_induction splitGroup? depth es generalizing group rest with
  | case1 => cases h
  | case2 es =>
    cases h
    rfl
  | case3 depth es ih | case4 depth es ih | case5 depth e es _ _ _ ih =>
    obtain ⟨⟨g, r⟩, hg, hparts⟩ := Option.map_eq_some_iff.mp h
    cases hparts
    rw [ih hg, List.cons_append]

theorem seekClose_cons_of_ne {e : Element} (count place : Nat) (es : List Element)
    (ho : e ≠ .op .openParen) (hc : e ≠ .op .closeParen) :
    seekClose count place (e :: es) = seekClose count (place + 1) es := by
  rcases e with o | id
  · cases o <;> simp_all [seekClose]
  · simp [seekClose]

/-- Behind an open parenthesis the count does not fall below zero, and it is zero where the group
ends. -/
theorem seekClose_eq (depth place : Nat) (es : List Element) :
    seekClose (depth + 1) place es =
      .ok ((splitGroup? depth es).map fun parts => place + parts.1.length) := by
  induction es generalizing depth place with
  | nil => rfl
  | cons e es ih =>
    have hcons : ∀ (parts? : Option (List Element × List Element))
        (cons : List Element × List Element → List Element × List Element),
        (∀ parts, (cons parts).1 = e :: parts.1) →
        ((parts?.map cons).map fun parts => place + parts.1.length) =
          parts?.map fun parts => place + 1 + parts.1.length := by
      intro parts? cons hparts
      rw [Option.map_map]
      congr 1
      funext parts
      rw [Function.comp_apply, hparts, List.length_cons]
      omega
    by_cases ho : e = .op .openParen
    · subst ho
      rw [seekClose, splitGroup?, ih, hcons _ _ fun _ => rfl]
    · by_cases hc : e = .op .closeParen
      · subst hc
        cases depth with
        | zero => rfl
        | succ depth =>
          rw [seekClose, if_neg (Nat.succ_ne_zero depth), splitGroup?, ih, hcons _ _ fun _ => rfl]
      · rw [seekClose_cons_of_ne _ _ _ ho hc, splitGroup?_cons_of_ne _ _ ho hc, ih,
          hcons _ _ fun _ => rfl]

/-- The partner of an open parenthesis is found: it stands behind the group, or nowhere in the
range. -/
theorem partner_eq {place finish : Nat} (h : elements[place]? = some (.op .openParen))
    (hlt : place < finish) (hfinish : finish ≤ elements.length) :
    partner elements ⟨place, finish⟩ =
      .ok (match splitGroup? 0 ((Range.mk (place + 1) finish).slice elements) with
        | some (group, _) => place + 1 + group.length
        | none => finish) := by
  unfold partner
  rw [if_pos ⟨Nat.le_of_lt hlt, hfinish⟩, slice_cons h hlt, seekClose, seekClose_eq]
  cases splitGroup? 0 ((Range.mk (place + 1) finish).slice elements) <;> rfl

/-- The group behind a parenthesis and what is left behind it are ranges too. -/
theorem slices_of_group {place finish : Nat} {group rest : List Element}
    (hfinish : finish ≤ elements.length) (hlt : place < finish)
    (h : splitGroup? 0 ((Range.mk (place + 1) finish).slice elements) = some (group, rest)) :
    (Range.mk (place + 1) (place + 1 + group.length)).slice elements = group ∧
      (Range.mk (place + 1 + group.length + 1) finish).slice elements = rest ∧
      place + 1 + group.length + 1 + rest.length = finish := by
  have hparts := eq_of_splitGroup? h
  obtain ⟨hgroup, hrest⟩ := slice_append hparts
  rw [← List.singleton_append] at hrest
  refine ⟨hgroup, (slice_append hrest).2, ?_⟩
  have hlength := congrArg List.length hparts
  rw [length_slice hfinish, List.length_append, List.length_cons] at hlength
  omega

/-! ## Operators in trees -/

/-- The operators in a tree. -/
def operators : Tree → List LogicOp
  | leaf _ => []
  | node _ left op right => left.operators ++ op :: right.operators

/-- Each operator in the tree can stand between two operands. -/
def IsJoined (tree : Tree) : Prop := ∀ o ∈ tree.operators, o.isBinary = true

@[simp] theorem isJoined_leaf (value : Bool) : (leaf value).IsJoined := by
  simp [IsJoined, operators]

@[simp] theorem isJoined_node (negated : Bool) (left : Tree) (o : LogicOp) (right : Tree) :
    (node negated left o right).IsJoined ↔
      left.IsJoined ∧ o.isBinary = true ∧ right.IsJoined := by
  simp only [IsJoined, operators, List.forall_mem_append, List.forall_mem_cons]

/-! ## States of the loop -/

namespace Loop

/-- The tree and the reports that the elements which are left give, taken as a list. -/
def rest (elements : List Element) (value : Nat → Bool) (r : Range) (st : Loop) :
    Tree × List Report :=
  let es := (Range.mk st.place r.finish).slice elements
  match st.slot with
  | .left => build value r.start st.place st.negated es
  | .operator => buildOperator value st.negated st.left st.place es
  | .right =>
    let (right, reports) := buildRight value st.place es
    (.node st.negated st.left st.op right, reports)
  | .done => (st.tree, [])

/-- The states that the loop over a range can be in, slot by slot: the place is in the range, and
the parts of the tree that are not due yet are as they were at the beginning. -/
inductive Sound (r : Range) : Loop → Prop
  | left {place : Nat} (negated : Bool) : r.start ≤ place → place ≤ r.finish →
      Sound r ⟨.left, place, negated, .leaf false, .or, .leaf false⟩
  | operator {place : Nat} (negated : Bool) (left : Tree) : r.start < place → place ≤ r.finish →
      Sound r ⟨.operator, place, negated, left, .or, .leaf false⟩
  | right {place : Nat} (negated : Bool) (left : Tree) (op : LogicOp) :
      r.start < place → place ≤ r.finish → Sound r ⟨.right, place, negated, left, op, .leaf false⟩
  | done {place : Nat} (negated : Bool) (left : Tree) (op : LogicOp) (right : Tree) :
      r.start < place → place ≤ r.finish → Sound r ⟨.done, place, negated, left, op, right⟩

/-- More turns than these are never needed inside of each other. -/
def cost (r : Range) (st : Loop) : Nat :=
  3 * (r.finish - st.place) + match st.slot with
    | .left | .done => 0
    | .right => 1
    | .operator => 2

theorem sound_first {r : Range} (h : r.start ≤ r.finish) : (first r.start).Sound r :=
  .left false (Nat.le_refl _) h

theorem cost_first (r : Range) : (first r.start).cost r = 3 * r.size := rfl

/-- A state further on costs less, whatever part is due then. -/
theorem cost_lt {r : Range} {st next : Loop} (hplace : st.place < next.place)
    (hlt : st.place < r.finish) : next.cost r < st.cost r := by
  have hnext : next.cost r ≤ 3 * (r.finish - next.place) + 2 := by
    apply Nat.add_le_add_left
    cases next.slot <;> decide
  have hst : 3 * (r.finish - st.place) ≤ st.cost r := Nat.le_add_right _ _
  omega

end Loop

/-- What a turn may come to. If the loop stops, nothing is left. If it goes on, there is less to do
and the same to come of it. If the tree of another range is called for, that range lies inside and
is smaller, the loop goes on with whatever tree it gets, and with the tree of those elements the
same comes of it. No operator gets into the tree that cannot stand between two operands. -/
inductive Fine (elements : List Element) (value : Nat → Bool) (r : Range) (st : Loop) :
    Turn → Prop
  | stop : st.rest elements value r = (st.tree, st.lastReports r) → Fine elements value r st .stop
  | go {next : Loop} {reports : List Report} :
      next.Sound r → next.cost r < st.cost r → (st.tree.IsJoined → next.tree.IsJoined) →
      st.rest elements value r =
        ((next.rest elements value r).1, reports ++ (next.rest elements value r).2) →
      Fine elements value r st (.go next reports)
  | call {inner : Range} {resume : Tree → Loop} :
      inner.IsPart r → 3 * inner.size < st.cost r →
      (∀ part, (resume part).Sound r ∧ (resume part).cost r < st.cost r ∧
        (st.tree.IsJoined → part.IsJoined → (resume part).tree.IsJoined)) →
      st.rest elements value r =
        (let (part, reports) := ofElements value inner.start (inner.slice elements)
        (((resume part).rest elements value r).1,
          reports ++ ((resume part).rest elements value r).2)) →
      Fine elements value r st (.call inner resume)

/-! ## Turns -/

section

variable {r : Range} {st : Loop} {e : Element}

theorem build_of_unclosed {v : Nat → Bool} {start place : Nat} {negated : Bool}
    {es : List Element} (h : splitGroup? 0 es = none) :
    build v start place negated (.op .openParen :: es) =
      (.node negated (build v (place + 1) (place + 1) false es).1 .or (.leaf false),
        (build v (place + 1) (place + 1) false es).2) := by
  rw [build]
  split
  · rename_i hs
    simp [h] at hs
  · rfl

/-- The tree of the range behind a parenthesis is the left operand, and the loop goes on behind that
range. -/
theorem call_left_fine {place close : Nat} (negated : Bool) (hstart : r.start ≤ place)
    (hlt : place < r.finish) (hopen : place < close) (hclose : close ≤ r.finish)
    (hbuild : build value r.start place negated ((Range.mk place r.finish).slice elements) =
      (let (part, reports) := ofElements value (place + 1)
        ((Range.mk (place + 1) close).slice elements)
      let (tree, more) := buildOperator value negated part (min (close + 1) r.finish)
        ((Range.mk (min (close + 1) r.finish) r.finish).slice elements)
      (tree, reports ++ more))) :
    Fine elements value r ⟨.left, place, negated, .leaf false, .or, .leaf false⟩
      (.call ⟨place + 1, close⟩ fun part =>
        ⟨.operator, min (close + 1) r.finish, negated, part, .or, .leaf false⟩) := by
  have hplace : place < min (close + 1) r.finish := by omega
  refine .call ?_ ?_ ?_ hbuild
  · refine ⟨Nat.le_succ_of_le hstart, hopen, hclose, ?_⟩
    simp only [Range.size]
    omega
  · simp only [Range.size, Loop.cost]
    omega
  · intro part
    refine ⟨.operator _ _ (Nat.lt_of_le_of_lt hstart hplace) (Nat.min_le_right _ _), ?_, ?_⟩
    · exact Loop.cost_lt hplace hlt
    · simp [Loop.tree, LogicOp.isBinary]

/-- A group on the left is a range of its own, and the loop goes on behind it. Without an end it is
all that is left of the range. -/
theorem turnLeft_openParen {place : Nat} (negated : Bool) (hstart : r.start ≤ place)
    (hlt : place < r.finish) (hfinish : r.finish ≤ elements.length)
    (he : elements[place]? = some (.op .openParen)) :
    ∃ t, turnLeft elements value r.finish ⟨.left, place, negated, .leaf false, .or, .leaf false⟩
          (.op .openParen) = .ok t ∧
        Fine elements value r ⟨.left, place, negated, .leaf false, .or, .leaf false⟩ t := by
  have hcons := slice_cons he hlt
  have hpartner := partner_eq he hlt hfinish
  cases hsplit : splitGroup? 0 ((Range.mk (place + 1) r.finish).slice elements) with
  | some parts =>
    obtain ⟨group, rest⟩ := parts
    obtain ⟨hgroup, hrest, hlength⟩ := slices_of_group hfinish hlt hsplit
    have hmin : min (place + 1 + group.length + 1) r.finish = place + 1 + group.length + 1 := by
      omega
    have hplace : place + group.length + 2 = place + 1 + group.length + 1 := by omega
    simp only [hsplit] at hpartner
    refine ⟨_, by rw [turnLeft, hpartner]; rfl, call_left_fine negated hstart hlt ?_ ?_ ?_⟩
    · omega
    · omega
    · rw [hcons, build_of_group hsplit, hgroup, hmin, hrest, hplace]
      rfl
  | none =>
    simp only [hsplit] at hpartner
    refine ⟨_, by rw [turnLeft, hpartner]; rfl,
      call_left_fine negated hstart hlt hlt (Nat.le_refl _) ?_⟩
    rw [hcons, build_of_unclosed hsplit, Nat.min_eq_right (Nat.le_succ r.finish),
      slice_of_le (Nat.le_refl _)]
    simp only [buildOperator, List.append_nil]
    rfl

theorem turnLeft_fine (hs : st.Sound r) (hslot : st.slot = .left) (hlt : st.place < r.finish)
    (hfinish : r.finish ≤ elements.length) (he : elements[st.place]? = some e) :
    ∃ t, turnLeft elements value r.finish st e = .ok t ∧ Fine elements value r st t := by
  cases hs with
  | operator | right | done => cases hslot
  | @left place negated hstart hle =>
    have hcons := slice_cons he hlt
    rcases e with o | id
    · cases o with
      | openParen => exact turnLeft_openParen negated hstart hlt hfinish he
      | not =>
        refine ⟨_, rfl, .go (.left _ (Nat.le_succ_of_le hstart) hlt) ?_ ?_ ?_⟩
        · exact Loop.cost_lt (Nat.lt_succ_self _) hlt
        · simp [Loop.tree]
        · simp only [Loop.rest, hcons, build, List.nil_append]
      | and | or | xor | closeParen =>
        refine ⟨_, rfl, .go (.left _ (Nat.le_succ_of_le hstart) hlt) ?_ ?_ ?_⟩
        · exact Loop.cost_lt (Nat.lt_succ_self _) hlt
        · simp [Loop.tree]
        · simp only [Loop.rest, hcons]
          rw [build]
          · rfl
          · simp
          · simp
    · refine ⟨_, rfl, .go (.operator _ _ (Nat.lt_succ_of_le hstart) hlt) ?_ ?_ ?_⟩
      · exact Loop.cost_lt (Nat.lt_succ_self _) hlt
      · simp [Loop.tree]
      · simp only [Loop.rest, hcons, build, List.nil_append]

theorem turnOperator_fine (hs : st.Sound r) (hslot : st.slot = .operator)
    (hlt : st.place < r.finish) (he : elements[st.place]? = some e) :
    Fine elements value r st (turnOperator st e) := by
  cases hs with
  | left | right | done => cases hslot
  | @operator place negated left hstart hle =>
    have hcons := slice_cons he hlt
    have hnext : r.start < place + 1 := Nat.lt_succ_of_lt hstart
    rcases e with o | id
    · cases o with
      | closeParen =>
        refine .go (.operator _ _ hnext hlt) ?_ id ?_
        · exact Loop.cost_lt (Nat.lt_succ_self _) hlt
        · simp only [Loop.rest, hcons]
          rw [buildOperator]
          rfl
      | and | or | xor =>
        refine .go (.right _ _ _ hnext hlt) ?_ ?_ ?_
        · exact Loop.cost_lt (Nat.lt_succ_self _) hlt
        · simp [Loop.tree, LogicOp.isBinary]
        · simp only [Loop.rest, hcons]
          rw [buildOperator]
          · rfl
          · simp
      | not | openParen =>
        refine .go (.right _ _ _ hstart hle) ?_ id ?_
        · exact Nat.lt_succ_self _
        · simp only [Loop.rest, hcons]
          rw [buildOperator]
          · rfl
          · simp
    · refine .go (.right _ _ _ hstart hle) ?_ (fun h => h) ?_
      · exact Nat.lt_succ_self _
      · simp only [Loop.rest, hcons]
        rw [buildOperator]
        rfl

/-- The tree of an inner range that ends the range is the right operand. -/
theorem call_right_fine {place : Nat} (negated : Bool) (left : Tree) (op : LogicOp)
    (inner : Range) (hstart : r.start < inner.start) (hplace : place ≤ inner.start)
    (hinner : inner.start ≤ inner.finish) (hfinish : inner.finish ≤ r.finish)
    (hlt : place < r.finish)
    (hbuild : buildRight value place ((Range.mk place r.finish).slice elements) =
      ofElements value inner.start (inner.slice elements)) :
    Fine elements value r ⟨.right, place, negated, left, op, .leaf false⟩
      (.call inner
        (turnRight.whole r.finish ⟨.right, place, negated, left, op, .leaf false⟩)) := by
  refine .call ?_ ?_ ?_ ?_
  · refine ⟨Nat.le_of_lt hstart, hinner, hfinish, ?_⟩
    simp only [Range.size]
    omega
  · simp only [Range.size, Loop.cost]
    omega
  · intro part
    refine ⟨.done _ _ _ _ (by omega) (Nat.le_refl _), ?_, ?_⟩
    · exact Loop.cost_lt hlt hlt
    · intro hst hpart
      simp only [Loop.tree, isJoined_node] at hst
      simp only [turnRight.whole, Loop.tree, isJoined_node]
      exact ⟨hst.1, hst.2.1, hpart⟩
  · simp [Loop.rest, turnRight.whole, hbuild, Loop.tree]

/-- So is the tree of all that is left. -/
theorem call_chain_fine {place : Nat} (negated : Bool) (left : Tree) (op : LogicOp)
    (hstart : r.start < place) (hlt : place < r.finish)
    (hbuild : buildRight value place ((Range.mk place r.finish).slice elements) =
      build value place place false ((Range.mk place r.finish).slice elements)) :
    Fine elements value r ⟨.right, place, negated, left, op, .leaf false⟩
      (.call ⟨place, r.finish⟩
        (turnRight.whole r.finish ⟨.right, place, negated, left, op, .leaf false⟩)) :=
  call_right_fine negated left op ⟨place, r.finish⟩ hstart (Nat.le_refl _) (Nat.le_of_lt hlt)
    (Nat.le_refl _) hlt hbuild

theorem buildRight_of_unclosed {v : Nat → Bool} {place : Nat} {es : List Element}
    (h : splitGroup? 0 es = none) :
    buildRight v place (.op .openParen :: es) =
      build v place place false (.op .openParen :: es) := by
  rw [buildRight]
  split
  · rename_i hs
    simp [h] at hs
  · rfl

/-- A group on the right that ends the range is the right operand. Any other belongs to the chain
that is. -/
theorem turnRight_openParen {place : Nat} (negated : Bool) (left : Tree) (op : LogicOp)
    (hstart : r.start < place) (hlt : place < r.finish) (hfinish : r.finish ≤ elements.length)
    (he : elements[place]? = some (.op .openParen)) :
    ∃ t, turnRight elements value r.finish ⟨.right, place, negated, left, op, .leaf false⟩
          (.op .openParen) = .ok t ∧
        Fine elements value r ⟨.right, place, negated, left, op, .leaf false⟩ t := by
  have hcons := slice_cons he hlt
  have hpartner := partner_eq he hlt hfinish
  cases hsplit : splitGroup? 0 ((Range.mk (place + 1) r.finish).slice elements) with
  | some parts =>
    obtain ⟨group, rest⟩ := parts
    obtain ⟨hgroup, -, hlength⟩ := slices_of_group hfinish hlt hsplit
    simp only [hsplit] at hpartner
    cases rest with
    | nil =>
      rw [List.length_nil, Nat.add_zero] at hlength
      have hlast : r.finish - 1 = place + 1 + group.length := by omega
      refine ⟨_, by rw [turnRight, hpartner]; exact if_pos hlength, ?_⟩
      rw [hlast]
      apply call_right_fine negated left op ⟨place + 1, place + 1 + group.length⟩
      · exact Nat.lt_succ_of_lt hstart
      · exact Nat.le_succ place
      · exact Nat.le_add_right _ _
      · exact Nat.le_of_succ_le (Nat.le_of_eq hlength)
      · exact hlt
      · rw [hcons, buildRight_of_group hsplit, hgroup]
        rfl
    | cons e rest =>
      have hmore : ¬ place + 1 + group.length + 1 = r.finish := by
        rw [List.length_cons] at hlength
        omega
      refine ⟨_, by rw [turnRight, hpartner]; exact if_neg hmore,
        call_chain_fine negated left op hstart hlt ?_⟩
      rw [hcons, buildRight_of_more hsplit]
  | none =>
    simp only [hsplit] at hpartner
    refine ⟨_, by rw [turnRight, hpartner]; exact if_neg (Nat.succ_ne_self _),
      call_chain_fine negated left op hstart hlt ?_⟩
    rw [hcons, buildRight_of_unclosed hsplit]

theorem turnRight_ref {place : Nat} (negated : Bool) (left : Tree) (op : LogicOp) {id : Nat}
    (hstart : r.start < place) (hlt : place < r.finish) (hfinish : r.finish ≤ elements.length)
    (he : elements[place]? = some (.ref id)) :
    ∃ t, turnRight elements value r.finish ⟨.right, place, negated, left, op, .leaf false⟩
          (.ref id) = .ok t ∧
        Fine elements value r ⟨.right, place, negated, left, op, .leaf false⟩ t := by
  have hcons := slice_cons he hlt
  by_cases hlast : place + 1 = r.finish
  · refine ⟨_, if_pos hlast, .go (.done _ _ _ _ (Nat.lt_succ_of_lt hstart) hlt) ?_ ?_ ?_⟩
    · exact Loop.cost_lt (Nat.lt_succ_self _) hlt
    · simp [Loop.tree]
    · simp only [Loop.rest, hcons, slice_of_le (Nat.le_of_eq hlast.symm), buildRight]
      rfl
  · refine ⟨_, if_neg hlast, call_chain_fine negated left op hstart hlt ?_⟩
    have hne : (Range.mk (place + 1) r.finish).slice elements ≠ [] := by
      rw [← List.length_pos_iff, length_slice hfinish]
      omega
    rw [hcons, buildRight]
    exact hne

theorem turnRight_fine (hs : st.Sound r) (hslot : st.slot = .right) (hlt : st.place < r.finish)
    (hfinish : r.finish ≤ elements.length) (he : elements[st.place]? = some e) :
    ∃ t, turnRight elements value r.finish st e = .ok t ∧ Fine elements value r st t := by
  cases hs with
  | left | operator | done => cases hslot
  | @right place negated left op hstart hle =>
    have hcons := slice_cons he hlt
    rcases e with o | id
    · cases o with
      | openParen => exact turnRight_openParen negated left op hstart hlt hfinish he
      | not =>
        refine ⟨_, rfl, call_chain_fine negated left op hstart hlt ?_⟩
        rw [hcons, buildRight]
      | and | or | xor | closeParen =>
        refine ⟨_, rfl, .go (.right _ _ _ (Nat.lt_succ_of_lt hstart) hlt) ?_ (fun h => h) ?_⟩
        · exact Loop.cost_lt (Nat.lt_succ_self _) hlt
        · simp only [Loop.rest, hcons]
          rw [buildRight]
          · rfl
          · simp
          · simp
    · exact turnRight_ref negated left op hstart hlt hfinish he

/-- Where the loop stops, nothing is left. -/
theorem rest_of_stop (hs : st.Sound r) (h : r.finish ≤ st.place ∨ st.slot = .done) :
    st.rest elements value r = (st.tree, st.lastReports r) := by
  have hempty : (Range.mk r.finish r.finish).slice elements = [] := slice_of_le (Nat.le_refl _)
  cases hs with
  | done => rfl
  | left negated hstart hle =>
    obtain rfl := Nat.le_antisymm hle (h.resolve_right (by simp))
    simp only [Loop.rest, hempty, build]
    rfl
  | operator negated left hstart hle =>
    obtain rfl := Nat.le_antisymm hle (h.resolve_right (by simp))
    simp only [Loop.rest, hempty, buildOperator]
    rfl
  | right negated left op hstart hle =>
    obtain rfl := Nat.le_antisymm hle (h.resolve_right (by simp))
    simp only [Loop.rest, hempty, buildRight]
    rfl

/-- Whatever stands at the place, a turn is made, and what it comes to is fine. -/
theorem turn_fine (hs : st.Sound r) (hfinish : r.finish ≤ elements.length) :
    ∃ t, turn elements value r.finish st = .ok t ∧ Fine elements value r st t := by
  by_cases hstop : r.finish ≤ st.place ∨ st.slot = .done
  · exact ⟨.stop, if_pos hstop, .stop (rest_of_stop hs hstop)⟩
  · have hlt : st.place < r.finish := by
      omega
    have he : elements[st.place]? = some elements[st.place] := List.getElem?_eq_getElem _
    unfold turn
    rw [if_neg hstop, he]
    cases hslot : st.slot with
    | left => exact turnLeft_fine hs hslot hlt hfinish he
    | operator => exact ⟨_, rfl, turnOperator_fine hs hslot hlt he⟩
    | right => exact turnRight_fine hs hslot hlt hfinish he
    | done => exact absurd (Or.inr hslot) hstop

end

/-! ## Runs -/

/-- With enough turns the loop ends with the tree of what is left. -/
theorem run_eq {r : Range} {st : Loop} {n : Nat} (hs : st.Sound r)
    (hfinish : r.finish ≤ elements.length) (hn : st.cost r < n) :
    run elements value n r st = .ok (st.rest elements value r) := by
  induction n generalizing r st with
  | zero => exact absurd hn (Nat.not_lt_zero _)
  | succ n ih =>
    obtain ⟨t, hturn, hfine⟩ :
        ∃ t, turn elements value r.finish st = .ok t ∧ Fine elements value r st t :=
      turn_fine hs hfinish
    unfold run
    rw [hturn]
    cases hfine with
    | stop hrest =>
      rw [hrest]
      rfl
    | @go next reports hnext hcost _ hrest =>
      have hrun := ih hnext hfinish (by omega)
      show (run elements value n r next >>= fun built => .ok (built.1, reports ++ built.2)) = _
      rw [hrun, hrest]
      rfl
    | @call inner resume hinner hcost hresume hrest =>
      have hpart : run elements value n inner (.first inner.start) =
          .ok (ofElements value inner.start (inner.slice elements)) :=
        ih (Loop.sound_first hinner.start_le_finish) (Nat.le_trans hinner.finish_le hfinish)
          (by rw [Loop.cost_first]; omega)
      have hresumed : ∀ part, run elements value n r (resume part) =
          .ok ((resume part).rest elements value r) := by
        intro part
        obtain ⟨hsound, hless, -⟩ := hresume part
        exact ih hsound hfinish (by omega)
      show (run elements value n inner (.first inner.start) >>= fun built =>
        run elements value n r (resume built.1) >>= fun whole =>
          .ok (whole.1, built.2 ++ whole.2)) = _
      rw [hpart, hrest]
      show (run elements value n r (resume _) >>= fun whole => _) = _
      rw [hresumed]
      rfl

/-- No operator gets into the tree that cannot stand between two operands. -/
theorem isJoined_rest {r : Range} {st : Loop} (hs : st.Sound r)
    (hfinish : r.finish ≤ elements.length) (hst : st.tree.IsJoined) :
    (st.rest elements value r).1.IsJoined := by
  induction hcost : st.cost r using Nat.strongRecOn generalizing r st with
  | _ n ih =>
    obtain ⟨t, -, hfine⟩ :
        ∃ t, turn elements value r.finish st = .ok t ∧ Fine elements value r st t :=
      turn_fine hs hfinish
    cases hfine with
    | stop hrest =>
      rw [hrest]
      exact hst
    | go hnext hless hjoined hrest =>
      rw [hrest]
      exact ih _ (hcost ▸ hless) hnext hfinish (hjoined hst) rfl
    | @call inner resume hinner hless hresume hrest =>
      have hpart : (ofElements value inner.start (inner.slice elements)).1.IsJoined :=
        ih _ (hcost ▸ hless) (Loop.sound_first hinner.start_le_finish)
          (Nat.le_trans hinner.finish_le hfinish)
          (by simp [Loop.first, Loop.tree, LogicOp.isBinary]) (Loop.cost_first inner)
      obtain ⟨hsound, hresumed, hjoined⟩ :=
        hresume (ofElements value inner.start (inner.slice elements)).1
      rw [hrest]
      exact ih _ (hcost ▸ hresumed) hsound hfinish (hjoined hst hpart) rfl

/-! ## Ways of the loop -/

section

variable {r : Range}

theorem Visits.sound {st : Loop} (h : Visits elements value r st) (hr : r.start ≤ r.finish)
    (hfinish : r.finish ≤ elements.length) : st.Sound r := by
  induction h with
  | first => exact Loop.sound_first hr
  | go _ hturn ih =>
    obtain ⟨t, ht, hfine⟩ := turn_fine ih hfinish
    rw [hturn] at ht
    cases ht
    cases hfine with
    | go hnext => exact hnext
  | call part _ hturn ih =>
    obtain ⟨t, ht, hfine⟩ := turn_fine ih hfinish
    rw [hturn] at ht
    cases ht
    cases hfine with
    | call _ _ hresume => exact (hresume part).1

theorem Calls.isPart {inner : Range} (h : Calls elements value r inner) (hr : r.start ≤ r.finish)
    (hfinish : r.finish ≤ elements.length) : inner.IsPart r := by
  obtain ⟨st, resume, hvisits, hturn⟩ := h
  obtain ⟨t, ht, hfine⟩ := turn_fine (hvisits.sound hr hfinish) hfinish
  rw [hturn] at ht
  cases ht
  cases hfine with
  | call hinner => exact hinner

/-- Ranges that are called for inside of each other become smaller and smaller. -/
theorem isPart_of_transGen {inner : Range} (h : Relation.TransGen (Calls elements value) r inner)
    (hr : r.start ≤ r.finish) (hfinish : r.finish ≤ elements.length) : inner.IsPart r := by
  induction h with
  | single hcall => exact hcall.isPart hr hfinish
  | tail _ hcall ih =>
    have hpart := hcall.isPart ih.start_le_finish (Nat.le_trans ih.finish_le hfinish)
    exact ⟨Nat.le_trans ih.start_le hpart.start_le, hpart.start_le_finish,
      Nat.le_trans hpart.finish_le ih.finish_le, Nat.lt_trans hpart.size_lt ih.size_lt⟩

end

/-- Whatever the elements are, the loop over a range of them ends with the tree that these elements
have as a list: three turns for each element, and one more, are enough. A range that is called for
on the way, at any depth, lies inside and is smaller. In each state that the loop over any of them
can come to, the turn is made: no place outside of the elements is asked for, and no count falls
below zero. The operators in the tree are those that stand between two operands. -/
theorem any_range_gives_a_tree (elements : List Element) (outcomes : Outcomes) (r : Range)
    (hr : r.start ≤ r.finish) (hfinish : r.finish ≤ elements.length) :
    (∀ n > 3 * r.size, buildIn elements outcomes.holds n r =
      .ok (ofElements outcomes.holds r.start (r.slice elements))) ∧
    (∀ inner, Relation.TransGen (Calls elements outcomes.holds) r inner → inner.IsPart r) ∧
    (∀ inner, Relation.ReflTransGen (Calls elements outcomes.holds) r inner →
      ∀ st, Visits elements outcomes.holds inner st →
        ∃ t, turn elements outcomes.holds inner.finish st = .ok t) ∧
    ∀ o ∈ (ofElements outcomes.holds r.start (r.slice elements)).1.operators,
      o = .and ∨ o = .or ∨ o = .xor := by
  have hfirst : (Loop.first r.start).Sound r := Loop.sound_first hr
  refine ⟨?_, ?_, ?_, ?_⟩
  · intro n hn
    exact run_eq hfirst hfinish hn
  · intro inner hinner
    exact isPart_of_transGen hinner hr hfinish
  · intro inner hinner st hvisits
    have hbounds : inner.start ≤ inner.finish ∧ inner.finish ≤ elements.length := by
      rcases Relation.reflTransGen_iff_eq_or_transGen.mp hinner with rfl | htrans
      · exact ⟨hr, hfinish⟩
      · have hpart := isPart_of_transGen htrans hr hfinish
        exact ⟨hpart.start_le_finish, Nat.le_trans hpart.finish_le hfinish⟩
    obtain ⟨t, hturn, -⟩ := turn_fine (hvisits.sound hbounds.1 hbounds.2) hbounds.2
    exact ⟨t, hturn⟩
  · intro o ho
    have hjoined : (ofElements outcomes.holds r.start (r.slice elements)).1.IsJoined :=
      isJoined_rest hfirst hfinish (by simp [Loop.first, Loop.tree, LogicOp.isBinary])
    exact Formula.connective_eq ⟨o, hjoined o ho⟩

/-- An empty group, an operand behind another, and a group without an end, behind a place that is
not in the range. -/
theorem a_broken_range_gives_a_tree :
    let es : List Element := [.op .closeParen, .op .openParen, .op .closeParen, .op .not, .ref 0,
      .ref 1, .op .openParen]
    let r : Range := ⟨1, 7⟩
    let outcomes : Outcomes := ⟨[(0, true)]⟩
    let empty : Tree := .node false (.leaf false) .or (.leaf false)
    r.start ≤ r.finish ∧ r.finish ≤ es.length ∧
      buildIn es outcomes.holds 19 r = .ok (ofElements outcomes.holds r.start (r.slice es)) ∧
      buildIn es outcomes.holds 19 r =
        .ok (.node false empty .or (.node true (.leaf true) .or
          (.node false (.leaf false) .or (.node false empty .or (.leaf false)))),
          [missingOperator 3, missingOperator 5, missingOperator 6]) := by
  intro es r outcomes empty
  have hr : r.start ≤ r.finish := by decide
  have hfinish : r.finish ≤ es.length := by decide
  refine ⟨hr, hfinish, (any_range_gives_a_tree es outcomes r hr hfinish).1 19 (by decide), ?_⟩
  rfl

end Verdict.Tree
