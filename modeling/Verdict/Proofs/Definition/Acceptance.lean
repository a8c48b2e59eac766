-- Which definitions of values make sense. A definition is accepted exactly if each
-- definition in it is sound by itself. A value can be written as a definition and
-- read again if its fields, and nothing else in it, are of the kind of fields.
import Verdict.Definition.Node
import Verdict.Proofs.Text.Trimming

namespace Verdict

/-! ## Values that definitions give -/

namespace ValueNode

/-- Literals and compounds are of other kinds than fields, and the names of fields are not empty
and have no blanks at their ends. -/
def IsPlain : ValueNode → Prop
  | literal kind _ => kind ≠ .field
  | field name => name ≠ "" ∧ Text.IsTrimmed name.toList
  | compound kind _ left right => kind ≠ .field ∧ left.IsPlain ∧ right.IsPlain

end ValueNode

namespace NodeDefinition

/-! ## Sound definitions -/

/-- The kind that a definition names. -/
def kind? (d : NodeDefinition) : Option Kind := d.kind.bind Kind.ofName?

/-- What is asked of a definition without its children: a known kind; with a child also the other
one, another kind than that of fields and an operator that is known or left out; and without
children a value, which is not blank where it names a field. -/
structure IsSound (d : NodeDefinition) : Prop where
  kind : d.kind?.isSome = true
  compound : d.isCompound = true → d.left.isSome = true ∧ d.right.isSome = true ∧
    d.kind? ≠ some .field ∧ ∀ name, d.operator = some name →
      (ArithmeticOp.ofName? name).isSome = true
  leaf : d.isCompound = false → ∃ j, d.value = some j ∧ j ≠ .null ∧
    (d.kind? = some .field → ∀ text, j.plainText? = some text → Text.isBlankText text = false)

mutual

/-- A definition with all definitions below it. -/
def nodes : NodeDefinition → List NodeDefinition
  | ⟨kind, value, operator, left, right⟩ =>
    ⟨kind, value, operator, left, right⟩ :: (childNodes left ++ childNodes right)

def childNodes : Option NodeDefinition → List NodeDefinition
  | none => []
  | some d => nodes d

end

/-! ## Written values -/

/-- The definition of a value: the names of its kinds, the names or the symbols of its operators,
its texts and its children. -/
inductive Writes : ValueNode → NodeDefinition → Prop where
  | literal (kind : Kind) (text : String) : Writes (.literal kind text) (literal kind.name text)
  | field (name : String) : Writes (.field name) (field name)
  | compound (kind : Kind) {op : ArithmeticOp} {operator : String}
      {left right : ValueNode} {leftDefinition rightDefinition : NodeDefinition}
      (hop : operator = op.name ∨ operator = op.symbol) (hleft : Writes left leftDefinition)
      (hright : Writes right rightDefinition) :
      Writes (.compound kind op left right)
        (compound kind.name operator leftDefinition rightDefinition)

theorem exists_writes (n : ValueNode) : ∃ d, Writes n d := by
  induction n with
  | literal kind text => exact ⟨_, .literal kind text⟩
  | field name => exact ⟨_, .field name⟩
  | compound kind op left right ihl ihr =>
    obtain ⟨dl, hl⟩ := ihl
    obtain ⟨dr, hr⟩ := ihr
    exact ⟨_, .compound kind (Or.inl rfl) hl hr⟩

/-! ## The parts of a definition -/

variable {kind operator : Option String} {value : Option Json} {left right : Option NodeDefinition}

theorem readKind_eq_ok_iff {k : Kind} :
    readKind kind = .ok k ↔ kind.bind Kind.ofName? = some k := by
  unfold readKind
  rcases kind with _ | name
  · simp
  · simp only [Option.bind_some]
    cases Kind.ofName? name <;> simp

theorem exists_readOperator_iff : (∃ op, readOperator operator = .ok op) ↔
    ∀ name, operator = some name → (ArithmeticOp.ofName? name).isSome = true := by
  unfold readOperator
  rcases operator with _ | name
  · simp
  · simp only [Option.some.injEq, forall_eq']
    cases ArithmeticOp.ofName? name <;> simp

theorem isSome_plainText?_iff {j : Json} : j.plainText?.isSome = true ↔ j ≠ .null := by
  cases j <;> simp [Json.plainText?]

/-- A leaf has a text, and a field a name. -/
theorem exists_leaf_iff {k : Kind} {text : Option String} : (∃ n, leaf k text = .ok n) ↔
    ∃ t, text = some t ∧ (k = .field → Text.isBlankText t = false) := by
  unfold leaf
  rcases text with _ | t
  · simp
  · by_cases hk : k = .field
    · cases hblank : Text.isBlankText t <;> simp [hk, hblank]
    · simp [hk]

/-! ## Nodes -/

theorem node_leaf_eq_ok_iff {n : ValueNode} : node ⟨kind, value, operator, none, none⟩ = .ok n ↔
    ∃ k, kind.bind Kind.ofName? = some k ∧ leaf k (value.bind Json.plainText?) = .ok n := by
  simp only [← readKind_eq_ok_iff]
  rw [node]
  cases readKind kind with
  | error fault => simp [bind, Except.bind]
  | ok k => simp [bind, Except.bind]

/-- One child alone is never accepted. -/
theorem node_of_one_child {n : ValueNode} (hsome : left.isSome = true ∨ right.isSome = true)
    (hnone : left.isSome = false ∨ right.isSome = false) :
    node ⟨kind, value, operator, left, right⟩ ≠ .ok n := by
  rw [node]
  cases readKind kind with
  | error fault => simp [bind, Except.bind]
  | ok k =>
    by_cases hk : k = .field
    · cases left <;> cases right <;> simp_all [bind, Except.bind]
    · cases left <;> cases right <;> simp_all [bind, Except.bind]

theorem node_compound_eq_ok_iff {l r : NodeDefinition} {n : ValueNode} :
    node ⟨kind, value, operator, some l, some r⟩ = .ok n ↔
      ∃ k op first second, kind.bind Kind.ofName? = some k ∧ k ≠ .field ∧
        readOperator operator = .ok op ∧ l.node = .ok first ∧ r.node = .ok second ∧
        n = .compound k op first second := by
  simp only [← readKind_eq_ok_iff]
  rw [node, childNode, childNode]
  cases readKind kind with
  | error fault => simp [bind, Except.bind]
  | ok k =>
    by_cases hk : k = .field
    · simp [bind, Except.bind, hk]
    · cases readOperator operator with
      | error fault => simp [bind, Except.bind, hk]
      | ok op =>
        cases l.node with
        | error fault => simp [bind, Except.bind, hk]
        | ok first =>
          cases r.node with
          | error fault => simp [bind, Except.bind, hk]
          | ok second => simp [bind, Except.bind, hk, eq_comm]

/-! ## Acceptance -/

theorem isSound_leaf_iff : IsSound ⟨kind, value, operator, none, none⟩ ↔
    ∃ n, node ⟨kind, value, operator, none, none⟩ = .ok n := by
  simp only [node_leaf_eq_ok_iff]
  constructor
  · intro h
    obtain ⟨k, hk⟩ := Option.isSome_iff_exists.mp h.kind
    obtain ⟨j, rfl, hj, hblank⟩ := h.leaf rfl
    obtain ⟨text, htext⟩ := Option.isSome_iff_exists.mp (isSome_plainText?_iff.mpr hj)
    obtain ⟨n, hn⟩ := exists_leaf_iff.mpr ⟨text, htext, fun hfield =>
      hblank (hfield ▸ hk) text htext⟩
    exact ⟨n, k, hk, hn⟩
  · rintro ⟨n, k, hk, hn⟩
    obtain ⟨text, htext, hblank⟩ := exists_leaf_iff.mp ⟨n, hn⟩
    obtain ⟨j, rfl, hj⟩ := Option.bind_eq_some_iff.mp htext
    refine ⟨Option.isSome_of_eq_some hk, fun hcompound => ?_, fun _ => ⟨j, rfl, ?_, ?_⟩⟩
    · cases hcompound
    · exact isSome_plainText?_iff.mp (Option.isSome_of_eq_some hj)
    · intro hfield t ht
      rw [hj] at ht
      cases ht
      exact hblank (Option.some.inj (hk.symm.trans hfield))

theorem isSound_compound_iff {l r : NodeDefinition} :
    IsSound ⟨kind, value, operator, some l, some r⟩ ↔
      (∃ k, kind.bind Kind.ofName? = some k ∧ k ≠ .field) ∧
        ∃ op, readOperator operator = .ok op := by
  rw [exists_readOperator_iff]
  constructor
  · intro h
    obtain ⟨k, hk⟩ := Option.isSome_iff_exists.mp h.kind
    obtain ⟨-, -, hfield, hoperator⟩ := h.compound rfl
    exact ⟨⟨k, hk, fun heq => hfield (heq ▸ hk)⟩, hoperator⟩
  · rintro ⟨⟨k, hk, hfield⟩, hoperator⟩
    refine ⟨Option.isSome_of_eq_some hk, fun _ => ⟨rfl, rfl, fun heq => ?_, hoperator⟩,
      fun hleaf => ?_⟩
    · exact hfield (Option.some.inj (hk.symm.trans heq))
    · cases hleaf

/-- A definition with one child is not sound, whatever is below it. -/
theorem not_isSound_of_one_child (hsome : left.isSome = true ∨ right.isSome = true)
    (hnone : left.isSome = false ∨ right.isSome = false) :
    ¬ IsSound ⟨kind, value, operator, left, right⟩ := by
  intro h
  obtain ⟨hleft, hright, -, -⟩ := h.compound ((Bool.or_eq_true _ _).mpr hsome)
  simp_all

theorem forall_nodes_iff {P : NodeDefinition → Prop} :
    (∀ e ∈ nodes ⟨kind, value, operator, left, right⟩, P e) ↔
      P ⟨kind, value, operator, left, right⟩ ∧ (∀ e ∈ childNodes left, P e) ∧
        ∀ e ∈ childNodes right, P e := by
  rw [nodes, List.forall_mem_cons, List.forall_mem_append]

/-- By recursion over the definition: a compound is accepted if it is sound and its children are
accepted. -/
theorem exists_node_iff : ∀ d : NodeDefinition,
    (∃ n, d.node = .ok n) ↔ ∀ e ∈ d.nodes, e.IsSound
  | ⟨kind, value, operator, none, none⟩ => by
    rw [forall_nodes_iff, isSound_leaf_iff]
    simp [childNodes]
  | ⟨kind, value, operator, some l, none⟩ => by
    rw [forall_nodes_iff]
    constructor
    · rintro ⟨n, hn⟩
      exact absurd hn (node_of_one_child (Or.inl rfl) (Or.inr rfl))
    · rintro ⟨h, -⟩
      exact absurd h (not_isSound_of_one_child (Or.inl rfl) (Or.inr rfl))
  | ⟨kind, value, operator, none, some r⟩ => by
    rw [forall_nodes_iff]
    constructor
    · rintro ⟨n, hn⟩
      exact absurd hn (node_of_one_child (Or.inr rfl) (Or.inl rfl))
    · rintro ⟨h, -⟩
      exact absurd h (not_isSound_of_one_child (Or.inr rfl) (Or.inl rfl))
  | ⟨kind, value, operator, some l, some r⟩ => by
    rw [forall_nodes_iff, childNodes, childNodes, ← exists_node_iff l, ← exists_node_iff r,
      isSound_compound_iff]
    simp only [node_compound_eq_ok_iff]
    constructor
    · rintro ⟨n, k, op, first, second, hk, hfield, hop, hl, hr, -⟩
      exact ⟨⟨⟨k, hk, hfield⟩, op, hop⟩, ⟨first, hl⟩, second, hr⟩
    · rintro ⟨⟨⟨k, hk, hfield⟩, op, hop⟩, ⟨first, hl⟩, second, hr⟩
      exact ⟨_, k, op, first, second, hk, hfield, hop, hl, hr, rfl⟩

/-! ## What is accepted -/

theorem isPlain_of_leaf {k : Kind} {text : Option String} {n : ValueNode}
    (h : leaf k text = .ok n) : n.IsPlain := by
  unfold leaf at h
  rcases text with _ | t
  · cases h
  · simp only at h
    by_cases hk : k = .field
    · rw [if_neg (not_not_intro hk)] at h
      split at h
      · cases h
      · rename_i hblank
        cases h
        refine ⟨fun hempty => hblank ?_, ?_⟩
        · apply Text.trim_eq_nil_iff.mp
          rw [← Text.trimmed_toList, hempty]
          rfl
        · rw [Text.trimmed_toList]
          exact Text.isTrimmed_trim _
    · rw [if_pos hk] at h
      cases h
      exact hk

theorem isPlain_of_node : ∀ {d : NodeDefinition} {n : ValueNode}, d.node = .ok n → n.IsPlain
  | ⟨kind, value, operator, none, none⟩, n, h => by
    obtain ⟨k, -, hleaf⟩ := node_leaf_eq_ok_iff.mp h
    exact isPlain_of_leaf hleaf
  | ⟨kind, value, operator, some l, none⟩, n, h =>
    absurd h (node_of_one_child (Or.inl rfl) (Or.inr rfl))
  | ⟨kind, value, operator, none, some r⟩, n, h =>
    absurd h (node_of_one_child (Or.inr rfl) (Or.inl rfl))
  | ⟨kind, value, operator, some l, some r⟩, n, h => by
    obtain ⟨k, op, first, second, -, hfield, -, hl, hr, rfl⟩ := node_compound_eq_ok_iff.mp h
    exact ⟨hfield, isPlain_of_node hl, isPlain_of_node hr⟩

/-! ## Reading again -/

theorem leaf_of_name {name : String} (hne : name ≠ "") (h : Text.IsTrimmed name.toList) :
    leaf .field (some name) = .ok (.field name) := by
  have hblank : Text.isBlankText name = false := by
    rw [← Bool.not_eq_true]
    intro hall
    apply hne
    rw [← String.toList_eq_nil_iff, ← h.trim_eq]
    exact Text.trim_eq_nil_iff.mpr hall
  have hname : Text.trimmed name = name := by
    rw [← String.toList_inj, Text.trimmed_toList, h.trim_eq]
  simp [leaf, hblank, hname]

theorem bind_ofName?_name (k : Kind) : (some k.name).bind Kind.ofName? = some k := by
  rw [Option.bind_some, Kind.ofName?_name]

/-- By induction on how the value is written. -/
theorem node_of_writes {n : ValueNode} {d : NodeDefinition} (h : Writes n d) (hn : n.IsPlain) :
    d.node = .ok n := by
  induction h with
  | literal kind text =>
    refine node_leaf_eq_ok_iff.mpr ⟨kind, bind_ofName?_name kind, ?_⟩
    simp only [ValueNode.IsPlain] at hn
    simp [leaf, Json.plainText?, hn]
  | field name =>
    refine node_leaf_eq_ok_iff.mpr ⟨.field, bind_ofName?_name .field, ?_⟩
    exact leaf_of_name hn.1 hn.2
  | compound kind hop hleft hright ihl ihr =>
    rename_i op operator left right dl dr
    obtain ⟨hfield, hl, hr⟩ := hn
    have hoperator : readOperator (some operator) = .ok op := by
      unfold readOperator
      rcases hop with rfl | rfl
      · simp [ArithmeticOp.ofName?_name]
      · simp [ArithmeticOp.ofName?_symbol]
    exact node_compound_eq_ok_iff.mpr ⟨kind, op, left, right, bind_ofName?_name kind, hfield,
      hoperator, ihl hl, ihr hr, rfl⟩

/-- A definition of a value is accepted exactly if every definition in it is sound. What it gives is
plain, and every plain value is read again however it is written. -/
theorem sound_definitions_are_accepted_and_values_are_read_again :
    (∀ d : NodeDefinition, (∃ n, d.node = .ok n) ↔ ∀ e ∈ d.nodes, e.IsSound) ∧
    (∀ (d : NodeDefinition) (n : ValueNode), d.node = .ok n → n.IsPlain) ∧
    ∀ n : ValueNode, n.IsPlain →
      (∃ d, Writes n d) ∧ ∀ d, Writes n d → d.node = .ok n :=
  ⟨exists_node_iff, fun _ _ => isPlain_of_node,
    fun n hn => ⟨exists_writes n, fun _ h => node_of_writes h hn⟩⟩

/-- Of a compound the value is passed over, and of a leaf the operator. -/
theorem a_quotient_is_accepted_and_read_again :
    let d : NodeDefinition := ⟨some " double", some (.bool true), some "Divided_By",
      some ⟨some "FIELD", some (.str " price "), some "%", none, none⟩,
      some ⟨some "Int", some (.int 2), none, none, none⟩⟩
    let n : ValueNode := .compound .float .dividedBy (.field "price") (.literal .int "2")
    d.node = .ok n ∧ (∀ e ∈ d.nodes, e.IsSound) ∧ n.IsPlain ∧
      (compound "Float" "/" (field "price") (literal "Int" "2")).node = .ok n := by
  intro d n
  have hnode : d.node = .ok n := by decide +kernel
  obtain ⟨haccepted, hplain, hagain⟩ := sound_definitions_are_accepted_and_values_are_read_again
  have hn := hplain d n hnode
  have hwrites : Writes n (compound "Float" "/" (field "price") (literal "Int" "2")) :=
    .compound .float (Or.inr rfl) (.field "price") (.literal .int "2")
  exact ⟨hnode, (haccepted d).mp ⟨n, hnode⟩, hn, (hagain n hn).2 _ hwrites⟩

end NodeDefinition

end Verdict
