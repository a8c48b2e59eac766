-- A store is a finite map from ids to rule sets. Each change of a store is one
-- of the map, and what a store tells of itself is what the map tells.
import Mathlib.Data.Finmap
import Mathlib.Data.String.Basic
import Verdict.Proofs.Keyed
import Verdict.Store

namespace Verdict

/-- Rule sets by their ids. -/
abbrev RuleSetMap := Finmap fun _ : String => RuleSet

/-- The conditions of all rule sets. -/
def RuleSetMap.conditions (m : RuleSetMap) : Multiset Condition :=
  m.entries.bind fun e => (e.2.conditions.map Prod.snd : List Condition)

namespace Store

/-- The entries of a store, as a map has them. -/
def pairs (s : Store) : List (Sigma fun _ : String => RuleSet) := s.ruleSets.map fun e => ⟨e.1, e.2⟩

/-- The map that a store is. -/
def map (s : Store) : RuleSetMap := s.pairs.toFinmap

/-! ## Changes -/

section

variable (s : Store) (id : String)

theorem lookup_map : s.map.lookup id = s.get? id := by
  unfold map pairs get?
  rw [Finmap.dlookup_list_toFinmap]
  induction s.ruleSets with
  | nil => rfl
  | cons e rest ih =>
    rw [List.map_cons, Keyed.find?]
    split
    · rename_i hid
      subst hid
      rw [List.dlookup_cons_eq]
    · rename_i hid
      rw [List.dlookup_cons_ne _ _ hid, ih]

theorem contains_eq : s.contains id = decide (id ∈ s.map) := by
  unfold contains
  rw [← lookup_map, Bool.eq_iff_iff, decide_eq_true_iff, Finmap.lookup_isSome]

theorem map_put (r : RuleSet) : (s.put id r).map = s.map.insert id r := by
  refine Finmap.ext_lookup fun other => ?_
  rw [lookup_map]
  unfold get? put
  rw [Keyed.find?_insert]
  split
  · rename_i hid
    rw [hid, Finmap.lookup_insert]
  · rename_i hid
    rw [Finmap.lookup_insert_of_ne _ hid, lookup_map]
    rfl

theorem map_erase :
    ({ s with ruleSets := Keyed.erase id s.ruleSets } : Store).map = s.map.erase id := by
  refine Finmap.ext_lookup fun other => ?_
  rw [lookup_map]
  unfold get?
  rw [Keyed.find?_erase]
  split
  · rename_i hid
    rw [hid, Finmap.lookup_erase]
  · rename_i hid
    rw [Finmap.lookup_erase_ne hid, lookup_map]
    rfl

theorem map_clear : s.clear.map = ∅ := rfl

end

/-! ## Order -/

/-- The entries stand in the order of their keys, and each key is the id of its rule set. -/
structure Orderly (s : Store) : Prop where
  sorted : Keyed.Sorted s.ruleSets
  named : ∀ id r, s.get? id = some r → r.id = id

namespace Orderly

variable {s : Store}

theorem put (h : s.Orderly) {id : String} {r : RuleSet} (hr : r.id = id) :
    (s.put id r).Orderly := by
  refine ⟨h.sorted.insert id r, fun other t ht => ?_⟩
  unfold get? Store.put at ht
  rw [Keyed.find?_insert] at ht
  split at ht
  · rename_i hid
    cases ht
    rw [hr, hid]
  · exact h.named other t ht

theorem erase (h : s.Orderly) (id : String) :
    ({ s with ruleSets := Keyed.erase id s.ruleSets } : Store).Orderly := by
  refine ⟨h.sorted.erase id, fun other t ht => ?_⟩
  unfold get? at ht
  rw [Keyed.find?_erase] at ht
  split at ht
  · cases ht
  · exact h.named other t ht

theorem clear : s.clear.Orderly := ⟨Keyed.sorted_nil, fun _ _ h => nomatch h⟩

end Orderly

/-! ## Questions -/

/-- What a store tells of itself is what a map tells. The ids are told in some order, each of them
once. The counts are those of the ids, of the conditions of all rule sets, and of the conditions
without values among these. -/
structure Shows (s : Store) (m : RuleSetMap) : Prop where
  get? : ∀ id, s.get? id = m.lookup id
  contains : ∀ id, s.contains id = decide (id ∈ m)
  nodup_ids : s.ids.Nodup
  ids : s.ids.toFinset = m.keys
  size : s.size = m.keys.card
  isEmpty : s.isEmpty = true ↔ m = ∅
  stats : s.stats =
    ⟨m.keys.card, m.conditions.card, m.conditions.countP fun c => c.operands = none⟩

theorem keys_pairs (s : Store) : s.pairs.keys = s.ids := by
  unfold pairs ids Keyed.keys List.keys
  rw [List.map_map]
  rfl

namespace Orderly

variable {s : Store}

/-- There is one entry for a key, so the map has the entries of the store. -/
theorem entries_map (h : s.Orderly) :
    s.map.entries = (s.pairs : Multiset (Sigma fun _ : String => RuleSet)) := by
  have hkeys : s.pairs.NodupKeys := by
    unfold List.NodupKeys
    rw [keys_pairs]
    exact h.sorted.nodup_keys
  have hmap : s.map = AList.toFinmap ⟨s.pairs, hkeys⟩ := by
    refine Finmap.ext_lookup fun id => ?_
    unfold map
    rw [Finmap.dlookup_list_toFinmap, Finmap.lookup_toFinmap]
    rfl
  rw [hmap]
  rfl

theorem keys_map (h : s.Orderly) : s.map.keys.val = (s.ids : Multiset String) := by
  have hval : s.map.keys.val = s.map.entries.keys := rfl
  rw [hval, h.entries_map, Multiset.coe_keys, keys_pairs]

theorem conditions_map (h : s.Orderly) : s.map.conditions =
    (s.ruleSets.flatMap fun e => e.2.conditions.map Prod.snd : List Condition) := by
  unfold RuleSetMap.conditions
  rw [h.entries_map, Multiset.coe_bind]
  unfold pairs
  rw [List.flatMap_map]

theorem card_conditions_map (h : s.Orderly) :
    s.map.conditions.card = s.total RuleSet.size := by
  rw [h.conditions_map, Multiset.coe_card, List.length_flatMap, List.sum_eq_foldl, List.foldl_map]
  simp only [List.length_map]
  rfl

/-- A condition counts as disabled if it has no values. -/
theorem countP_conditions_map (h : s.Orderly) :
    s.map.conditions.countP (fun c => c.operands = none) = s.total RuleSet.disabledCount := by
  have hdisabled : ∀ r : RuleSet,
      (r.conditions.map Prod.snd).countP (fun c => c.operands = none) = r.disabledCount := by
    intro r
    unfold RuleSet.disabledCount
    rw [List.countP_map]
    congr 1
    funext e
    simp only [Function.comp_apply, Condition.isEnabled]
    cases e.2.operands <;> rfl
  rw [h.conditions_map, Multiset.coe_countP, List.countP_flatMap, List.sum_eq_foldl, List.foldl_map]
  simp only [Function.comp_apply, hdisabled]
  rfl

theorem size_map (h : s.Orderly) : s.map.keys.card = s.size := by
  rw [Finset.card_def, h.keys_map, Multiset.coe_card]
  exact List.length_map _

theorem shows (h : s.Orderly) : s.Shows s.map where
  get? id := (s.lookup_map id).symm
  contains id := s.contains_eq id
  nodup_ids := h.sorted.nodup_keys
  ids := by
    ext id
    rw [List.mem_toFinset, ← Finset.mem_val, h.keys_map, Multiset.mem_coe]
  size := h.size_map.symm
  isEmpty := by
    unfold isEmpty
    rw [List.isEmpty_iff]
    constructor
    · intro hnil
      unfold map pairs
      rw [hnil]
      rfl
    · intro hm
      have hsize := h.size_map
      rw [hm] at hsize
      exact List.length_eq_zero_iff.mp hsize.symm
  stats := by
    unfold stats
    rw [h.size_map, h.card_conditions_map, h.countP_conditions_map]

end Orderly

end Store

end Verdict
