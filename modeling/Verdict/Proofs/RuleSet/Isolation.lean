-- Definitions of conditions that are not right. Such a definition disables its own
-- condition and touches nothing else: the other conditions, the formula and their
-- outcomes are those that they are with any other definition in its place.
import Verdict.Proofs.RuleSet.Listing

namespace Verdict

/-! ## Outcomes -/

/-- The outcomes with the one of a condition forced to false. -/
def Outcomes.denied (r : Outcomes) (id : Nat) : Outcomes := ⟨Keyed.insert id false r.entries⟩

theorem Outcomes.holds_denied (r : Outcomes) (id other : Nat) :
    (r.denied id).holds other = if other = id then false else r.holds other := by
  unfold denied holds
  rw [Keyed.lookup_eq_find?, Keyed.lookup_eq_find?, Keyed.find?_insert]
  split <;> rfl

namespace RuleSet

variable {s t : RuleSet}

/-- The formula asks only which conditions hold. -/
theorem apply_congr {r r' : Outcomes} (h : ∀ id, r.holds id = r'.holds id) :
    s.apply r = s.apply r' := by
  unfold apply Formula.evaluate
  rw [funext h]

/-- Neither the name of a rule set nor what its conditions are counts for its formula, but only the
largest id. -/
theorem apply_eq_of_maxId? (hm : s.maxId? = t.maxId?) (hq : s.equation = t.equation)
    (r : Outcomes) : s.apply r = t.apply r := by
  unfold apply normalized
  rw [hm, hq]

theorem equation_add (s : RuleSet) (id : Nat) (c : Condition) :
    (s.add id c).equation = s.equation := by
  unfold add
  split <;> rfl

theorem options_add (s : RuleSet) (id : Nat) (c : Condition) :
    (s.add id c).options = s.options := by
  unfold add
  split <;> rfl

/-! ## A disabled condition in the place of another one -/

section

variable {k : Nat} {comparator : Comparator}

theorem conditions_add_disabled (hk : k ≤ maxConditionId) :
    (s.add k (.disabled k comparator)).conditions =
      Keyed.insert k (.disabled k comparator) s.conditions := by
  unfold add
  rw [if_pos hk]
  rfl

theorem condition?_add_disabled (hk : k ≤ maxConditionId) (id : Nat) :
    (s.add k (.disabled k comparator)).condition? id =
      if id = k then some (.disabled k comparator) else s.condition? id := by
  unfold condition?
  rw [conditions_add_disabled hk, Keyed.find?_insert]

theorem holds_outcomes_add_disabled (hk : k ≤ maxConditionId) (x : Context) (id : Nat) :
    ((s.add k (.disabled k comparator)).outcomes x).holds id =
      ((s.outcomes x).denied k).holds id := by
  rw [holds_outcomes, condition?_add_disabled hk, Outcomes.holds_denied, holds_outcomes]
  split <;> rfl

/-- A disabled condition is not listed, and the other ones are listed as before. -/
theorem Sound.matchedEntries_add_disabled (h : s.Sound) (hk : k ≤ maxConditionId) (x : Context) :
    (s.add k (.disabled k comparator)).matchedEntries x =
      (s.matchedEntries x).filter fun e => e.1 ≠ k := by
  have hadd : (s.add k (.disabled k comparator)).Sound := h.add k fun _ _ => rfl
  refine (hadd.sorted_matchedEntries x).ext_mem
    ((h.sorted_matchedEntries x).sublist List.filter_sublist) fun id name => ?_
  rw [hadd.mem_matchedEntries, List.mem_filter, h.mem_matchedEntries, condition?_add_disabled hk]
  by_cases hid : id = k
  · refine iff_of_false ?_ (by simp [hid])
    rintro ⟨c, hc, hx, -⟩
    rw [if_pos hid] at hc
    cases hc
    exact Bool.false_ne_true hx
  · simp [hid]

/-- The ids stay as they are if there was a condition before. -/
theorem Sound.keys_add_disabled (h : s.Sound) (hk : k ≤ maxConditionId)
    (hfound : (s.condition? k).isSome = true) :
    Keyed.keys (s.add k (.disabled k comparator)).conditions = Keyed.keys s.conditions := by
  have hadd : (s.add k (.disabled k comparator)).Sound := h.add k fun _ _ => rfl
  refine hadd.sorted.keys_eq h.sorted fun id => ?_
  have hid : (s.add k (.disabled k comparator)).condition? id =
      if id = k then some (.disabled k comparator) else s.condition? id :=
    condition?_add_disabled hk id
  unfold condition? at hid hfound
  rw [hid]
  split
  · rename_i heq
    rw [heq, hfound]
    rfl
  · rfl

theorem maxId?_eq_getLast?_keys (s : RuleSet) : s.maxId? = (Keyed.keys s.conditions).getLast? := by
  unfold maxId? Keyed.keys
  rw [List.getLast?_map]

/-- The verdict is that of the outcomes with the one of the condition forced to false. -/
theorem Sound.matched_add_disabled (h : s.Sound) (hk : k ≤ maxConditionId)
    (hfound : (s.condition? k).isSome = true) (record : Record) (now : Moment) :
    ((s.add k (.disabled k comparator)).evaluate record now).matched =
      s.apply ((s.outcomes (s.context record now)).denied k) := by
  let t := s.add k (.disabled k comparator)
  have hequation : t.equation = s.equation := equation_add s k _
  have hcontext : t.context record now = s.context record now := by
    unfold context
    rw [options_add]
  have hmax : t.maxId? = s.maxId? := by
    rw [maxId?_eq_getLast?_keys, maxId?_eq_getLast?_keys, h.keys_add_disabled hk hfound]
  calc t.apply (t.outcomes (t.context record now))
      = s.apply (t.outcomes (s.context record now)) := by
        rw [hcontext, apply_eq_of_maxId? hmax hequation]
    _ = s.apply ((s.outcomes (s.context record now)).denied k) :=
        apply_congr fun id => holds_outcomes_add_disabled hk _ id

end

end RuleSet

/-! ## A definition that is not right -/

namespace ConditionDefinition

variable {after : List ConditionDefinition} {bad : ConditionDefinition} {fault : Fault} {k : Nat}

/-- A definition that is not right gives a disabled condition under its id. -/
theorem entry?_of_error (hid : bad.id.number = .ok k)
    (hbad : Condition.ofDefinition bad = .error fault) :
    ∃ comparator, bad.entry? = some (k, .disabled k comparator) := by
  rw [entry?_of_number hid]
  unfold condition
  rw [hbad]
  exact ⟨_, rfl⟩

theorem ne_of_mem_entries (h : ∀ d ∈ after, d.id.number ≠ .ok k) :
    ∀ e ∈ after.filterMap entry?, e.1 ≠ k := by
  rintro e he rfl
  obtain ⟨d, hd, hentry⟩ := List.mem_filterMap.mp he
  exact h d hd (number_of_entry hentry).1

end ConditionDefinition

namespace RuleSet

/-- The conditions of a definition with a part that is not right are those of the other definition,
with a disabled one in the place of the one that the part stands for. -/
theorem conditions_of_error {d : RuleSetDefinition} {before after : List ConditionDefinition}
    {old bad : ConditionDefinition} {fault : Fault} {k : Nat}
    (hd : d.conditions = before ++ old :: after) (hold : old.id.number = .ok k)
    (hlast : ∀ e ∈ after, e.id.number ≠ .ok k) (hid : bad.id.number = .ok k)
    (hbad : Condition.ofDefinition bad = .error fault) (r r' : Reporter) (newId newId' : String) :
    let s := ofDefinition r newId d
    let t := ofDefinition r' newId' { d with conditions := before ++ bad :: after }
    (s.condition? k).isSome = true ∧
      ∃ comparator, t.conditions = Keyed.insert k (.disabled k comparator) s.conditions := by
  intro s t
  have hafter := ConditionDefinition.ne_of_mem_entries hlast
  obtain ⟨comparator, hentry⟩ := ConditionDefinition.entry?_of_error hid hbad
  have hs : s.conditions = Keyed.ofList (before.filterMap ConditionDefinition.entry? ++
      (k, old.condition k) :: after.filterMap ConditionDefinition.entry?) := by
    have hentries : s.conditions =
        Keyed.ofList (d.conditions.filterMap ConditionDefinition.entry?) := rfl
    rw [hentries, hd, List.filterMap_append,
      List.filterMap_cons_some (ConditionDefinition.entry?_of_number hold)]
  have ht : t.conditions = Keyed.ofList (before.filterMap ConditionDefinition.entry? ++
      (k, .disabled k comparator) :: after.filterMap ConditionDefinition.entry?) := by
    have hentries : t.conditions =
        Keyed.ofList ((before ++ bad :: after).filterMap ConditionDefinition.entry?) := rfl
    rw [hentries, List.filterMap_append, List.filterMap_cons_some hentry]
  refine ⟨?_, comparator, ?_⟩
  · unfold condition?
    rw [hs, Keyed.find?_ofList_of_last _ hafter, if_pos rfl]
    rfl
  · rw [hs, ht]
    exact Keyed.ofList_replaced _ _ hafter

/-- A definition of a condition that is not right, in the place of the last one with its id,
disables that condition and touches nothing else: the ids, the other conditions and the formula
stay. On every record the list of the conditions that hold is the one without it, and the verdict is
the one that the formula gives when that condition is forced to false. -/
theorem a_faulty_definition_disables_its_own_condition_only {d : RuleSetDefinition}
    {before after : List ConditionDefinition} {old bad : ConditionDefinition} {fault : Fault}
    {k : Nat} (hd : d.conditions = before ++ old :: after) (hold : old.id.number = .ok k)
    (hlast : ∀ e ∈ after, e.id.number ≠ .ok k) (hid : bad.id.number = .ok k)
    (hbad : Condition.ofDefinition bad = .error fault) (r r' : Reporter) (newId newId' : String)
    (options : Options) :
    let s := (ofDefinition r newId d).withOptions options
    let t := (ofDefinition r' newId' { d with conditions := before ++ bad :: after }).withOptions
      options
    Keyed.keys t.conditions = Keyed.keys s.conditions ∧
      (∀ id, id ≠ k → t.condition? id = s.condition? id) ∧ t.equation = s.equation ∧
      (∃ c, t.condition? k = some c ∧ c.isEnabled = false) ∧
      ∀ record now,
        let x := s.context record now
        (s.evaluate record now).matchedConditions = (s.matchedEntries x).map Prod.snd ∧
          (t.evaluate record now).matchedConditions =
            ((s.matchedEntries x).filter fun e => e.1 ≠ k).map Prod.snd ∧
          (t.evaluate record now).matched = s.apply ((s.outcomes x).denied k) := by
  intro s t
  have hk := ConditionId.number_le hid
  have hs : s.Sound := ((Reachable.ofDefinition r newId d).withOptions options).sound
  have ht : t.Sound := ((Reachable.ofDefinition r' newId' _).withOptions options).sound
  obtain ⟨hfound, comparator, hconditions⟩ :=
    conditions_of_error hd hold hlast hid hbad r r' newId newId'
  -- The rule set with the faulty definition is the other one with a disabled condition added to it.
  let u := s.add k (.disabled k comparator)
  have hu : u.Sound := hs.add k fun _ _ => rfl
  have htu : t.conditions = u.conditions :=
    hconditions.trans (conditions_add_disabled (s := s) hk).symm
  have hcondition : ∀ id, t.condition? id =
      if id = k then some (.disabled k comparator) else s.condition? id := by
    intro id
    rw [← condition?_add_disabled hk]
    unfold condition?
    rw [htu]
  have hsame : SameContent t u := by
    refine ⟨fun id => ?_, ?_, (options_add s k _).symm⟩
    · unfold condition?
      rw [htu]
    · rw [equation_add]
      rfl
  refine ⟨?_, ?_, rfl, ⟨.disabled k comparator, ?_, rfl⟩, ?_⟩
  · rw [htu]
    exact hs.keys_add_disabled hk hfound
  · intro id hne
    rw [hcondition, if_neg hne]
  · rw [hcondition, if_pos rfl]
  · intro record now x
    have hverdict := Prod.mk.inj (hsame.verdict_eq ht hu record now)
    have hx : u.context record now = x := by
      unfold x context
      rw [options_add]
    refine ⟨matchedConditions_evaluate s record now, ?_, ?_⟩
    · rw [hverdict.2, matchedConditions_evaluate, hx, hs.matchedEntries_add_disabled hk]
    · rw [hverdict.1]
      exact hs.matched_add_disabled hk hfound record now

/-- The formula `a.b` over two names that are copied. With a fault deep in the second definition
only the first name is listed, and the formula is false. -/
theorem a_fault_deep_in_a_definition_disables_one_name :
    let blank := NodeDefinition.literal "String" ""
    let copy (id : ConditionId) (name : String) : ConditionDefinition :=
      ⟨id, "Copy", some (.field name), some blank⟩
    let deep := NodeDefinition.compound "Int" "+" (.field "city")
      (.compound "Int" "+" (.literal "Odd" "1") blank)
    let bad : ConditionDefinition := ⟨.label "1", "Eq", some deep, some blank⟩
    let before := [copy (.label "b") "name"]
    let after := [copy (.label "A") "name"]
    let d : RuleSetDefinition :=
      ⟨some "trip", none, before ++ copy (.index 1) "city" :: after, .formula "a.b"⟩
    let record := Record.fields [("city", "Rome"), ("name", "Ann")]
    let now := Moment.midnight ⟨2024, 2, 29, by decide⟩
    let s := ofDefinition {} "new" d
    let t := ofDefinition {} "new" { d with conditions := before ++ bad :: after }
    (∀ e ∈ after, e.id.number ≠ .ok 1) ∧
      Condition.ofDefinition bad = .error (.unknownKind "odd") ∧
      (s.evaluate record now).matchedConditions = ["Ann", "Rome"] ∧
      (t.evaluate record now).matchedConditions = ["Ann"] ∧
      (t.evaluate record now).matched = false := by
  intro blank copy deep bad before after d record now s t
  have hlast : ∀ e ∈ after, e.id.number ≠ .ok 1 := by
    intro e he
    rw [List.mem_singleton.mp he]
    exact fun h => Nat.zero_ne_one (Except.ok.inj h)
  have hbad : Condition.ofDefinition bad = .error (.unknownKind "odd") := by decide +kernel
  have hs : s.Sound := (Reachable.ofDefinition {} "new" d).sound
  obtain ⟨-, -, -, -, heval⟩ := a_faulty_definition_disables_its_own_condition_only (d := d) rfl rfl
    hlast rfl hbad {} {} "new" "new" {}
  obtain ⟨hlist, hlistt, hmatched⟩ := heval record now
  let formula : Formula.Sentence := .join (.plain (.ref 0)) ⟨.and, rfl⟩ (.operand (.plain (.ref 1)))
  have hformula : Formula.normalize 1 s.equation.elements = formula.elements := by decide +kernel
  refine ⟨hlast, hbad, hlist.trans (by decide +kernel), hlistt.trans (by decide +kernel), ?_⟩
  refine hmatched.trans ((hs.apply_eq (show s.maxId? = some 1 by decide +kernel) _).trans ?_)
  rw [hformula, Formula.evaluate_elements]
  decide +kernel

end RuleSet

end Verdict
