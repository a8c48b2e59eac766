-- Definitions in JSON. What was read from a document, an object or an array,
-- is written as an object with all its fields, and is read from that again.
import Verdict.Proofs.Json.Records
import Verdict.RuleSet.Basic

namespace Verdict

open Json Json.Document

/-! ## Ids -/

theorem ConditionId.json_ne_null (id : ConditionId) : id.json ≠ .null := by
  cases id <;> simp [json]

theorem ConditionId.exact_json (id : ConditionId) : Exact id.json := by
  cases id <;> simp [Exact, json, floats]

/-- A number that ids may have is read as it is written, and so is any text. -/
theorem ConditionId.ofDocument?_json {id : ConditionId}
    (h : ∀ n, id = .index n → n ≤ Text.maxIndex) (depth : Nat) :
    ofDocument? depth id.json.document = some id := by
  unfold ofDocument?
  cases id with
  | label text => rfl
  | index n =>
    have hn := h n rfl
    have hlow : Text.minInt64 ≤ n := by
      unfold Text.minInt64
      omega
    have hvalue : (Json.int n).document.value? depth = some (.int n) :=
      value?_document_int hlow (Int.ofNat_le.mpr hn)
    rw [json, hvalue, Option.bind_some, ofJson?, if_pos ⟨Int.natCast_nonneg n, by omega⟩,
      Int.toNat_natCast]

theorem ConditionId.readsAgain (depth : Nat) :
    ReadsAgain (ConditionId.ofDocument? depth) ConditionId.json := by
  intro d id h _
  unfold ofDocument? at h
  obtain ⟨j, -, hid⟩ := Option.bind_eq_some_iff.mp h
  apply ofDocument?_json
  rintro n rfl
  cases j with
  | int m =>
    unfold ofJson? at hid
    simp only at hid
    split at hid
    · cases hid
      omega
    · cases hid
  | _ => cases hid

/-! ## Tokens -/

/-- A token is read as it is written if its id is. -/
theorem TokenDefinition.ofDocument?_json {depth : Nat} (hdepth : depth ≠ 0) {op : String}
    {value : Option ConditionId}
    (hvalue : optional? (ConditionId.ofDocument? (depth - 1))
      (some (ofOption ConditionId.json value).document) = some value) :
    ofDocument? depth (document (json ⟨op, value⟩)) = some ⟨op, value⟩ := by
  have hwritten : (document (json ⟨op, value⟩)).fields? fieldNames =
      some [some (.str (some op)), some (ofOption ConditionId.json value).document] :=
    fields?_document (by simp)
  unfold ofDocument?
  rw [if_neg hdepth, hwritten]
  simp only [hvalue, string?]
  rfl

theorem TokenDefinition.readsAgain (depth : Nat) :
    ReadsAgain (TokenDefinition.ofDocument? depth) TokenDefinition.json := by
  intro d t h hexact
  unfold ofDocument? at h
  split at h
  · cases h
  rename_i hdepth
  split at h
  · rename_i op value hfields
    obtain ⟨o, ho, h⟩ := Option.bind_eq_some_iff.mp h
    obtain ⟨v, hv, h⟩ := Option.bind_eq_some_iff.mp h
    cases h
    have hid : Exact (ofOption ConditionId.json v) :=
      exact_obj.mp hexact ("value", ofOption ConditionId.json v) (by simp)
    exact ofDocument?_json hdepth ((ConditionId.readsAgain (depth - 1)).optional
      (fun _ id _ _ => ConditionId.json_ne_null id) hv hid)
  · cases h

/-- A token that was read is a value as it is written. -/
theorem TokenDefinition.isValue_json {depth : Nat} {d : Document} {t : TokenDefinition}
    (h : ofDocument? depth d = some t) : (document t.json).isValue depth = true := by
  unfold ofDocument? at h
  split at h
  · cases h
  rename_i hdepth
  split at h
  · obtain ⟨o, -, h⟩ := Option.bind_eq_some_iff.mp h
    obtain ⟨v, hv, h⟩ := Option.bind_eq_some_iff.mp h
    cases h
    refine isValue_obj hdepth fun field hf => ?_
    rcases List.mem_cons.mp hf with rfl | hf
    · rfl
    · cases List.mem_singleton.mp hf
      rcases v with _ | id
      · rfl
      · obtain ⟨d, -, hd⟩ := exists_of_optional? hv
        have hexact : Exact id.json := ConditionId.exact_json id
        obtain ⟨j, hj, -⟩ := Option.bind_eq_some_iff.mp
          (ConditionId.readsAgain (depth - 1) d id hd hexact)
        exact Option.isSome_of_eq_some hj
  · cases h

/-! ## Values -/

namespace NodeDefinition

theorem childJson_eq_ofOption (o : Option NodeDefinition) : childJson o = ofOption json o := by
  cases o with
  | none => rfl
  | some d =>
    rw [childJson]
    rfl

theorem json_ne_null (d : NodeDefinition) : d.json ≠ .null := by
  obtain ⟨kind, value, operator, left, right⟩ := d
  rw [json]
  simp

theorem getD_eq_ofOption (o : Option Json) : o.getD .null = ofOption id o := by
  cases o <;> rfl

/-- Only null is read as null. -/
theorem ne_null_of_value? {depth : Nat} {d : Document} {j : Json} (hd : d ≠ .null)
    (h : d.value? depth = some j) : j ≠ .null := by
  rintro rfl
  refine hd ?_
  cases d with
  | null => rfl
  | bool b => cases h
  | number n =>
    rcases isNumber_of_value? h with ⟨m, hm⟩ | ⟨x, hx⟩
    · cases hm
    · cases hx
  | str s =>
    obtain ⟨s, -, hs⟩ := Option.map_eq_some_iff.mp h
    cases hs
  | arr items =>
    rw [value?] at h
    split at h
    · cases h
    · obtain ⟨vs, -, hvs⟩ := Option.map_eq_some_iff.mp h
      cases hvs
  | obj fields =>
    rw [value?] at h
    split at h
    · cases h
    · obtain ⟨ms, -, hms⟩ := Option.map_eq_some_iff.mp h
      cases hms

theorem json_eq (kind : Option String) (value : Option Json) (operator : Option String)
    (left right : Option NodeDefinition) : json ⟨kind, value, operator, left, right⟩ =
      .obj [("kind", ofOption .str kind), ("value", ofOption id value),
        ("operator", ofOption .str operator), ("left", ofOption json left),
        ("right", ofOption json right)] := by
  rw [json, getD_eq_ofOption, childJson_eq_ofOption, childJson_eq_ofOption]

/-- A value is read as it is written if its parts are. -/
theorem ofDocument?_json {depth : Nat} {kind operator : Option String} {value : Option Json}
    {left right : Option NodeDefinition}
    (hvalue : optional? (value? depth) (some (ofOption id value).document) = some value)
    (hleft : optional? (ofDocument? depth) (some (ofOption json left).document) = some left)
    (hright : optional? (ofDocument? depth) (some (ofOption json right).document) = some right) :
    ofDocument? (depth + 1) (document (json ⟨kind, value, operator, left, right⟩)) =
      some ⟨kind, value, operator, left, right⟩ := by
  have hwritten : (document (json ⟨kind, value, operator, left, right⟩)).fields? fieldNames =
      some [some (ofOption .str kind).document, some (ofOption id value).document,
        some (ofOption .str operator).document, some (ofOption json left).document,
        some (ofOption json right).document] := by
    rw [json_eq]
    exact fields?_document (by simp)
  rw [ofDocument?, hwritten]
  simp only [optional?_text, hvalue, hleft, hright]
  rfl

/-- By induction on the nesting that may still come: the children are read with one level less. -/
theorem readsAgain (depth : Nat) : ReadsAgain (NodeDefinition.ofDocument? depth) json := by
  induction depth with
  | zero =>
    intro d n h _
    cases h
  | succ depth ih =>
    intro d n h hexact
    rw [ofDocument?] at h
    split at h
    · obtain ⟨k, -, h⟩ := Option.bind_eq_some_iff.mp h
      obtain ⟨v, hv, h⟩ := Option.bind_eq_some_iff.mp h
      obtain ⟨op, -, h⟩ := Option.bind_eq_some_iff.mp h
      obtain ⟨l, hl, h⟩ := Option.bind_eq_some_iff.mp h
      obtain ⟨r, hr, h⟩ := Option.bind_eq_some_iff.mp h
      cases h
      rw [json_eq] at hexact
      have hall := exact_obj.mp hexact
      apply ofDocument?_json
      · exact (readsAgain_value depth).optional (fun _ _ hne hj => ne_null_of_value? hne hj) hv
          (hall ("value", ofOption id v) (by simp))
      · exact ih.optional (fun _ d _ _ => json_ne_null d) hl
          (hall ("left", ofOption json l) (by simp))
      · exact ih.optional (fun _ d _ _ => json_ne_null d) hr
          (hall ("right", ofOption json r) (by simp))
    · cases h

end NodeDefinition

/-! ## Conditions -/

namespace ConditionDefinition

theorem json_eq (id : ConditionId) (comparator : String) (left right : Option NodeDefinition) :
    json ⟨id, comparator, left, right⟩ =
      .obj [("id", id.json), ("comparator", .str comparator),
        ("left", ofOption NodeDefinition.json left),
        ("right", ofOption NodeDefinition.json right)] := by
  rw [json, NodeDefinition.childJson_eq_ofOption, NodeDefinition.childJson_eq_ofOption]

/-- A condition is read as it is written if its id and its values are. -/
theorem ofDocument?_json {depth : Nat} (hdepth : depth ≠ 0) {id : ConditionId}
    {comparator : String} {left right : Option NodeDefinition}
    (hid : ConditionId.ofDocument? (depth - 1) id.json.document = some id)
    (hleft : optional? (NodeDefinition.ofDocument? (depth - 1))
      (some (ofOption NodeDefinition.json left).document) = some left)
    (hright : optional? (NodeDefinition.ofDocument? (depth - 1))
      (some (ofOption NodeDefinition.json right).document) = some right) :
    ofDocument? depth (document (json ⟨id, comparator, left, right⟩)) =
      some ⟨id, comparator, left, right⟩ := by
  have hwritten : (document (json ⟨id, comparator, left, right⟩)).fields? fieldNames =
      some [some id.json.document, some (.str (some comparator)),
        some (ofOption NodeDefinition.json left).document,
        some (ofOption NodeDefinition.json right).document] := by
    rw [json_eq]
    exact fields?_document (by simp)
  unfold ofDocument?
  rw [if_neg hdepth, hwritten]
  simp only [hid, hleft, hright, string?]
  rfl

theorem readsAgain (depth : Nat) : ReadsAgain (ConditionDefinition.ofDocument? depth) json := by
  intro d c h hexact
  unfold ofDocument? at h
  split at h
  · cases h
  rename_i hdepth
  split at h
  · obtain ⟨id, hid, h⟩ := Option.bind_eq_some_iff.mp h
    obtain ⟨op, -, h⟩ := Option.bind_eq_some_iff.mp h
    obtain ⟨l, hl, h⟩ := Option.bind_eq_some_iff.mp h
    obtain ⟨r, hr, h⟩ := Option.bind_eq_some_iff.mp h
    cases h
    rw [json_eq] at hexact
    have hall := exact_obj.mp hexact
    have hnode := NodeDefinition.readsAgain (depth - 1)
    apply ofDocument?_json hdepth
    · exact ConditionId.readsAgain (depth - 1) _ id hid (hall ("id", id.json) (by simp))
    · exact hnode.optional (fun _ d _ _ => d.json_ne_null) hl
        (hall ("left", ofOption NodeDefinition.json l) (by simp))
    · exact hnode.optional (fun _ d _ _ => d.json_ne_null) hr
        (hall ("right", ofOption NodeDefinition.json r) (by simp))
  · cases h

end ConditionDefinition

/-! ## Formulas -/

namespace EquationDefinition

theorem named?_formula (text : String) :
    (document (json (.formula text))).named? ["formula"] = some [some (.str (some text))] :=
  named?_document [("formula", .str text)] (by simp)

theorem named?_tokens (items : List TokenDefinition) :
    (document (json (.tokens items))).named? ["tokens"] =
      some [some (.arr (documents (items.map TokenDefinition.json)))] :=
  named?_document [("tokens", .arr (items.map TokenDefinition.json))] (by simp)

/-- A list of tokens is not taken for a compact text. -/
theorem formula?_tokens (items : List TokenDefinition) :
    formula? (document (json (.tokens items))) = none := by
  have hnone : (document (json (.tokens items))).named? ["formula"] = some [none] := rfl
  unfold formula?
  rw [hnone]

/-- A list of tokens was read from a list of documents. -/
theorem exists_of_tokens {depth : Nat} {d : Document} {items : List TokenDefinition}
    (h : ofDocument? depth d = some (.tokens items)) :
    ∃ ds : List Document, ds.mapM (TokenDefinition.ofDocument? (depth - 2)) = some items := by
  unfold ofDocument? at h
  split at h
  · rcases Option.or_eq_some_iff.mp h with h | ⟨-, h⟩
    · unfold formula? at h
      split at h
      · obtain ⟨text, -, htext⟩ := Option.map_eq_some_iff.mp h
        cases htext
      · cases h
    · unfold tokens? at h
      split at h
      · rename_i ds _
        obtain ⟨ts, hts, heq⟩ := Option.map_eq_some_iff.mp h
        cases heq
        exact ⟨ds, hts⟩
      · cases h
  · cases h

/-- Any compact text is read as it is written. -/
theorem ofDocument?_formula {depth : Nat} (hdepth : depth ≠ 0) (text : String) :
    ofDocument? depth (document (json (.formula text))) = some (.formula text) := by
  have hvalue : (document (json (.formula text))).isValue depth = true := by
    refine isValue_obj hdepth fun field hf => ?_
    cases List.mem_singleton.mp hf
    rfl
  unfold ofDocument? formula?
  rw [if_pos hvalue, named?_formula]
  rfl

theorem isValue_tokens {depth : Nat} (hdepth : 2 ≤ depth) {ds : List Document}
    {items : List TokenDefinition}
    (h : ds.mapM (TokenDefinition.ofDocument? (depth - 2)) = some items) :
    (document (json (.tokens items))).isValue depth = true := by
  refine isValue_obj (by omega) fun field hf => ?_
  cases List.mem_singleton.mp hf
  refine isValue_arr (by omega) fun item hi => ?_
  obtain ⟨t, ht, rfl⟩ := List.mem_map.mp hi
  obtain ⟨d, -, hd⟩ := exists_of_mem_mapM h ht
  exact TokenDefinition.isValue_json hd

/-- A list of tokens is read as it is written if each token is. -/
theorem ofDocument?_tokens {depth : Nat} (hdepth : 2 ≤ depth) {items : List TokenDefinition}
    (h : (documents (items.map TokenDefinition.json)).mapM
      (TokenDefinition.ofDocument? (depth - 2)) = some items) :
    ofDocument? depth (document (json (.tokens items))) = some (.tokens items) := by
  unfold ofDocument? tokens?
  rw [if_pos (isValue_tokens hdepth h), formula?_tokens, named?_tokens]
  simp only [h]
  rfl

theorem readsAgain {depth : Nat} (hdepth : 2 ≤ depth) :
    ReadsAgain (EquationDefinition.ofDocument? depth) json := by
  intro d q h hexact
  cases q with
  | formula text => exact ofDocument?_formula (by omega) text
  | tokens items =>
    obtain ⟨ds, hds⟩ := exists_of_tokens h
    have hitems : Exact (.arr (items.map TokenDefinition.json)) :=
      exact_obj.mp hexact ("tokens", .arr (items.map TokenDefinition.json)) (by simp)
    exact ofDocument?_tokens hdepth ((TokenDefinition.readsAgain (depth - 2)).list hds hitems)

end EquationDefinition

/-! ## Rule sets -/

namespace RuleSetDefinition

theorem conditions?_document {depth : Nat} (hdepth : depth ≠ 0) {cs : List ConditionDefinition}
    (h : (documents (cs.map ConditionDefinition.json)).mapM
      (ConditionDefinition.ofDocument? (depth - 1)) = some cs) :
    conditions? depth (document (.arr (cs.map ConditionDefinition.json))) = some cs := by
  rw [document]
  unfold conditions?
  simp only [if_neg hdepth]
  exact h

theorem readsAgain_conditions {depth : Nat} (hdepth : depth ≠ 0) :
    ReadsAgain (conditions? depth) fun cs => .arr (cs.map ConditionDefinition.json) := by
  intro d cs h hexact
  unfold conditions? at h
  split at h
  · rw [if_neg hdepth] at h
    exact conditions?_document hdepth ((ConditionDefinition.readsAgain (depth - 1)).list h hexact)
  · cases h

/-- A rule set is read as it is written if its conditions and its formula are. -/
theorem ofDocument?_json {depth : Nat} (hdepth : depth ≠ 0) {id name : Option String}
    {cs : List ConditionDefinition} {q : EquationDefinition}
    (hconditions : conditions? (depth - 1) (document (.arr (cs.map ConditionDefinition.json))) =
      some cs)
    (hequation : EquationDefinition.ofDocument? (depth - 1) q.json.document = some q) :
    ofDocument? depth (document (json ⟨id, name, cs, q⟩)) = some ⟨id, name, cs, q⟩ := by
  have hwritten : (document (json ⟨id, name, cs, q⟩)).fields? fieldNames =
      some [some (ofOption .str id).document, some (ofOption .str name).document,
        some (document (.arr (cs.map ConditionDefinition.json))), some q.json.document] :=
    fields?_document (by simp)
  unfold ofDocument?
  rw [if_neg hdepth, hwritten]
  simp only [optional?_text, orElse?, hconditions, hequation]
  rfl

/-- What is left out is read again as if it had been written. -/
theorem orElse?_again {α : Type} {read : Document → Option α} {write : α → Json} {default a : α}
    {o : Option Document} (h : ReadsAgain read write)
    (hdefault : read (write default).document = some default)
    (ha : orElse? read default o = some a) (hexact : Exact (write a)) :
    read (write a).document = some a := by
  rcases o with _ | d
  · cases ha
    exact hdefault
  · exact h d a ha hexact

/-- The nesting suffices for what is written in the place of fields that were left out. -/
theorem readsAgain {depth : Nat} (hdepth : 3 ≤ depth) :
    ReadsAgain (RuleSetDefinition.ofDocument? depth) json := by
  intro d s h hexact
  unfold ofDocument? at h
  rw [if_neg (by omega)] at h
  split at h
  · obtain ⟨id, -, h⟩ := Option.bind_eq_some_iff.mp h
    obtain ⟨name, -, h⟩ := Option.bind_eq_some_iff.mp h
    obtain ⟨cs, hcs, h⟩ := Option.bind_eq_some_iff.mp h
    obtain ⟨q, hq, h⟩ := Option.bind_eq_some_iff.mp h
    cases h
    have hall := exact_obj.mp hexact
    have hnone : conditions? (depth - 1)
        (document (.arr (([] : List ConditionDefinition).map ConditionDefinition.json))) =
          some [] := conditions?_document (by omega) rfl
    apply ofDocument?_json (by omega)
    · exact orElse?_again (readsAgain_conditions (by omega)) hnone hcs
        (hall ("conditions", .arr (cs.map ConditionDefinition.json)) (by simp))
    · exact orElse?_again (EquationDefinition.readsAgain (by omega))
        (EquationDefinition.ofDocument?_formula (by omega) "") hq
        (hall ("equation", q.json) (by simp))
  · cases h

/-- Saving and loading loses nothing: a definition that was read from any text is read again from
its own text, and the rule sets that are made of both have the same conditions and the same
formula. Numbers with a point in the values are taken to be read as they are written. -/
theorem what_was_read_is_read_from_its_own_text {text : String} {d : RuleSetDefinition}
    (h : ofText? text = some d) (hexact : Exact d.json) :
    ofText? d.json.text = some d ∧
      ∀ loaded, ofText? d.json.text = some loaded → ∀ (r s : Reporter) (oldId newId : String),
        (RuleSet.ofDefinition s newId loaded).conditions =
          (RuleSet.ofDefinition r oldId d).conditions ∧
        (RuleSet.ofDefinition s newId loaded).equation.elements =
          (RuleSet.ofDefinition r oldId d).equation.elements := by
  have hagain : ofText? d.json.text = some d := by
    obtain ⟨doc, -, hdoc⟩ := Option.bind_eq_some_iff.mp h
    unfold ofText?
    rw [ofText?_text hexact]
    exact readsAgain (by decide) doc d hdoc hexact
  refine ⟨hagain, fun loaded hloaded r s oldId newId => ?_⟩
  have heq : loaded = d := Option.some.inj (hloaded.symm.trans hagain)
  rw [heq]
  exact ⟨rfl, rfl⟩

/-- Records as arrays and as objects, one of them a compound value. -/
def mixedText : String :=
  "\x7b\"conditions\":[[\"B\",\"Gt\",\x7b\"kind\":\"Float\",\"value\":0.01\x7d," ++
  "\x7b\"kind\":\"Int\",\"left\":[\"Field\",\"n\"],\"right\":[\"Int\",2]\x7d]]," ++
  "\"equation\":\x7b\"tokens\":[[\"Ref\",1]]\x7d\x7d"

theorem a_mixed_definition_is_read_again : ∃ d, ofText? mixedText = some d ∧
    d.json.floats = [0.01] ∧ ofText? d.json.text = some d := by
  have hfloats : (ofText? mixedText).map (·.json.floats) = some [0.01] := by decide +kernel
  obtain ⟨d, hread, hd⟩ := Option.map_eq_some_iff.mp hfloats
  have hnumber : ReadsBack 0.01 := by
    unfold ReadsBack
    with_unfolding_all rfl
  have hexact : Exact d.json := by
    intro x hx
    rw [hd, List.mem_singleton] at hx
    rw [hx]
    exact hnumber
  exact ⟨d, hread, hd, (what_was_read_is_read_from_its_own_text hread hexact).1⟩

end RuleSetDefinition

end Verdict
