-- The laws of keyed entries. Every operation keeps the keys in increasing
-- order, and entries in that order are known by what is found in them. A list
-- of entries is put in order by the last entry of each key.
import Mathlib.Data.List.Induction
import Mathlib.Order.Defs.Unbundled
import Verdict.Keyed

namespace Verdict.Keyed

section

variable {κ α β : Type} [LT κ] [DecidableLT κ] [DecidableEq κ]

/-! ## Members -/

theorem mem_of_mem_insert {key : κ} {value : α} {entries : List (κ × α)} {e : κ × α}
    (h : e ∈ insert key value entries) : e = (key, value) ∨ e ∈ entries := by
  fun_induction insert key value entries with
  | case1 => simpa using h
  | case2 v rest =>
    rcases List.mem_cons.mp h with h | h
    · exact Or.inl h
    · exact Or.inr (List.mem_cons_of_mem _ h)
  | case3 k v rest _ _ =>
    rcases List.mem_cons.mp h with h | h
    · exact Or.inl h
    · exact Or.inr h
  | case4 k v rest _ _ ih =>
    rcases List.mem_cons.mp h with h | h
    · exact Or.inr (h ▸ List.mem_cons_self)
    · rcases ih h with h | h
      · exact Or.inl h
      · exact Or.inr (List.mem_cons_of_mem _ h)

omit [LT κ] [DecidableLT κ] in
theorem mem_of_mem_erase {key : κ} {entries : List (κ × α)} {e : κ × α}
    (h : e ∈ erase key entries) : e ∈ entries := (List.mem_filter.mp h).1

theorem mem_of_mem_ofList {entries : List (κ × α)} {e : κ × α} (h : e ∈ ofList entries) :
    e ∈ entries := by
  unfold ofList at h
  induction entries using List.reverseRecOn with
  | nil => exact h
  | append_singleton entries f ih =>
    rw [List.foldl_append] at h
    rcases mem_of_mem_insert h with h | h
    · simp [h]
    · exact List.mem_append_left _ (ih h)

omit [LT κ] [DecidableLT κ] in
/-- A change of the values changes what is found. -/
theorem find?_map (key : κ) (f : α → β) (entries : List (κ × α)) :
    find? key (entries.map fun e => (e.1, f e.2)) = (find? key entries).map f := by
  induction entries with
  | nil => rfl
  | cons e rest ih =>
    simp only [List.map_cons, find?]
    split
    · rfl
    · exact ih

omit [LT κ] [DecidableLT κ] in
theorem mem_of_find? {key : κ} {value : α} {entries : List (κ × α)}
    (h : find? key entries = some value) : (key, value) ∈ entries := by
  induction entries with
  | nil => simp at h
  | cons e rest ih =>
    unfold find? at h
    split at h
    · rename_i hk
      cases h
      simp [hk]
    · exact List.mem_cons_of_mem _ (ih h)

omit [LT κ] [DecidableLT κ] in
theorem lookup_eq_find? [BEq κ] [LawfulBEq κ] (key : κ) (entries : List (κ × α)) :
    entries.lookup key = find? key entries := by
  induction entries with
  | nil => rfl
  | cons e rest ih =>
    unfold find?
    by_cases hk : key = e.1
    · rw [if_pos hk, hk]
      exact List.lookup_cons_self
    · have hne : (key == e.1) = false := beq_eq_false_iff_ne.mpr hk
      rw [if_neg hk, ← ih, List.lookup_cons, hne]

omit [LT κ] [DecidableLT κ] in
theorem find?_append (key : κ) (as bs : List (κ × α)) :
    find? key (as ++ bs) = (find? key as).or (find? key bs) := by
  induction as with
  | nil => rfl
  | cons e rest ih =>
    simp only [List.cons_append, find?]
    split
    · rfl
    · exact ih

omit [LT κ] [DecidableLT κ] in
theorem find?_eq_none {key : κ} {entries : List (κ × α)} (h : ∀ e ∈ entries, e.1 ≠ key) :
    find? key entries = none := by
  rcases hf : find? key entries with _ | value
  · rfl
  · exact absurd rfl (h _ (mem_of_find? hf))

omit [LT κ] [DecidableLT κ] in
/-- Where no key comes twice, the order of the entries does not count. -/
theorem find?_perm {as bs : List (κ × α)} (h : as.Perm bs) (hkeys : (keys as).Nodup) (key : κ) :
    find? key as = find? key bs := by
  induction h with
  | nil => rfl
  | cons e _ ih => simp only [find?, ih (List.nodup_cons.mp hkeys).2]
  | swap e f rest =>
    have hne : f.1 ≠ e.1 := fun heq => (List.nodup_cons.mp hkeys).1 (by simp [heq])
    simp only [find?]
    split
    · rename_i hf
      rw [if_neg (hf ▸ hne)]
    · rfl
  | trans h _ ih ih' =>
    have hkeys' := (h.map Prod.fst).nodup_iff.mp hkeys
    exact (ih hkeys).trans (ih' hkeys')

omit [LT κ] [DecidableLT κ] in
/-- What is found under a key depends on its entries only. -/
theorem find?_filter (key : κ) (entries : List (κ × α)) :
    find? key (entries.filter fun e => e.1 = key) = find? key entries := by
  induction entries with
  | nil => rfl
  | cons e rest ih =>
    by_cases hk : e.1 = key
    · rw [List.filter_cons_of_pos (by simpa using hk)]
      simp only [find?, if_pos hk.symm]
    · rw [List.filter_cons_of_neg (by simpa using hk), ih]
      simp only [find?, if_neg (Ne.symm hk)]

omit [LT κ] [DecidableLT κ] in
theorem erase_of_find?_eq_none {key : κ} {entries : List (κ × α)}
    (h : find? key entries = none) : erase key entries = entries := by
  unfold erase
  refine List.filter_eq_self.mpr fun e he => ?_
  induction entries with
  | nil => cases he
  | cons f rest ih =>
    unfold find? at h
    split at h
    · cases h
    · rename_i hk
      rcases List.mem_cons.mp he with rfl | he
      · exact decide_eq_true (Ne.symm hk)
      · exact ih h he

/-- Of entries with one key the last is found. -/
theorem find?_ofList (key : κ) (entries : List (κ × α)) :
    find? key (ofList entries) = find? key entries.reverse := by
  unfold ofList
  induction entries using List.reverseRecOn with
  | nil => rfl
  | append_singleton entries e ih =>
    rw [List.foldl_append, List.reverse_append]
    simp only [List.foldl_cons, List.foldl_nil, List.reverse_singleton, List.singleton_append]
    rw [find?_insert, ih]
    rfl

/-- The last entry of a key decides what is found under that key, and nothing else. -/
theorem find?_ofList_of_last {as bs : List (κ × α)} {key other : κ} (value : α)
    (h : ∀ e ∈ bs, e.1 ≠ key) : find? other (ofList (as ++ (key, value) :: bs)) =
      if other = key then some value else find? other (ofList (as ++ bs)) := by
  have hnone : find? key bs.reverse = none :=
    find?_eq_none fun e he => h e (List.mem_reverse.mp he)
  rw [find?_ofList, find?_ofList]
  simp only [List.reverse_append, List.reverse_cons, List.append_assoc, List.singleton_append,
    find?_append, find?]
  split
  · rename_i hk
    rw [hk, hnone]
    rfl
  · rfl

end

/-! ## Order -/

section

variable {κ α β : Type} [LT κ]

/-- The keys increase, so there is at most one entry for a key. -/
def Sorted (entries : List (κ × α)) : Prop := entries.Pairwise fun a b => a.1 < b.1

theorem sorted_nil : Sorted ([] : List (κ × α)) := List.Pairwise.nil

theorem Sorted.map {entries : List (κ × α)} (h : Sorted entries) (f : α → β) :
    Sorted (entries.map fun e => (e.1, f e.2)) := by
  unfold Sorted
  rw [List.pairwise_map]
  exact h

variable [DecidableEq κ]

theorem Sorted.erase {entries : List (κ × α)} (h : Sorted entries) (key : κ) :
    Sorted (erase key entries) := h.sublist List.filter_sublist

variable [DecidableLT κ] [IsStrictTotalOrder κ (· < ·)]

theorem Sorted.insert {entries : List (κ × α)} (h : Sorted entries) (key : κ) (value : α) :
    Sorted (insert key value entries) := by
  fun_induction Keyed.insert key value entries with
  | case1 => exact List.pairwise_singleton _ _
  | case2 v rest =>
    obtain ⟨hv, hrest⟩ := List.pairwise_cons.mp h
    exact List.pairwise_cons.mpr ⟨hv, hrest⟩
  | case3 k v rest _ hlt =>
    refine List.pairwise_cons.mpr ⟨?_, h⟩
    intro e he
    rcases List.mem_cons.mp he with rfl | he
    · exact hlt
    · exact trans_of (· < ·) hlt ((List.pairwise_cons.mp h).1 e he)
  | case4 k v rest hne hlt ih =>
    obtain ⟨hv, hrest⟩ := List.pairwise_cons.mp h
    refine List.pairwise_cons.mpr ⟨?_, ih hrest⟩
    intro e he
    rcases mem_of_mem_insert he with rfl | he
    · rcases trichotomous_of (· < ·) key k with hk | hk | hk
      · exact absurd hk hlt
      · exact absurd hk hne
      · exact hk
    · exact hv e he

theorem sorted_ofList (entries : List (κ × α)) : Sorted (ofList entries) := by
  unfold ofList
  induction entries using List.reverseRecOn with
  | nil => exact sorted_nil
  | append_singleton entries e ih =>
    rw [List.foldl_append]
    exact ih.insert e.1 e.2

omit [DecidableEq κ] [DecidableLT κ] in
theorem Sorted.nodup_keys {entries : List (κ × α)} (h : Sorted entries) :
    (keys entries).Nodup := by
  unfold keys List.Nodup
  rw [List.pairwise_map]
  refine h.imp fun hlt heq => ?_
  rw [heq] at hlt
  exact irrefl_of (· < ·) _ hlt

omit [DecidableLT κ] in
/-- In front of the first key nothing is found. -/
theorem find?_eq_none_of_lt {key : κ} {entries : List (κ × α)} (h : ∀ e ∈ entries, key < e.1) :
    find? key entries = none := by
  rcases hf : find? key entries with _ | value
  · rfl
  · exact absurd (h _ (mem_of_find? hf)) (irrefl_of (· < ·) key)

omit [DecidableLT κ] in
theorem Sorted.find?_eq_none_of_lt_head {key k : κ} {v : α} {entries : List (κ × α)}
    (h : Sorted ((k, v) :: entries)) (hlt : key < k) : find? key ((k, v) :: entries) = none := by
  refine find?_eq_none_of_lt fun e he => ?_
  rcases List.mem_cons.mp he with rfl | he
  · exact hlt
  · exact trans_of (· < ·) hlt ((List.pairwise_cons.mp h).1 e he)

omit [DecidableLT κ] in
/-- Each entry is the one that is found under its key. -/
theorem Sorted.find?_of_mem {key : κ} {value : α} {entries : List (κ × α)} (h : Sorted entries)
    (hm : (key, value) ∈ entries) : find? key entries = some value := by
  induction entries with
  | nil => cases hm
  | cons e rest ih =>
    obtain ⟨hk, hrest⟩ := List.pairwise_cons.mp h
    unfold find?
    rcases List.mem_cons.mp hm with rfl | hm
    · exact if_pos rfl
    · have hlt : e.1 < key := hk (key, value) hm
      have hne : key ≠ e.1 := by
        intro heq
        rw [← heq] at hlt
        exact irrefl_of (· < ·) key hlt
      rw [if_neg hne, ih hrest hm]

omit [DecidableLT κ] in
/-- What is found in entries in order is what is there. -/
theorem Sorted.find?_eq_some_iff {key : κ} {value : α} {entries : List (κ × α)}
    (h : Sorted entries) : find? key entries = some value ↔ (key, value) ∈ entries :=
  ⟨mem_of_find?, h.find?_of_mem⟩

omit [DecidableLT κ] in
/-- Entries in order are equal if the same is found in them under each key. -/
theorem Sorted.ext {as bs : List (κ × α)} (ha : Sorted as) (hb : Sorted bs)
    (h : ∀ key, find? key as = find? key bs) : as = bs := by
  induction as generalizing bs with
  | nil =>
    rcases bs with _ | ⟨⟨k, v⟩, bs⟩
    · rfl
    · have := h k
      simp [find?] at this
  | cons e as ih =>
    obtain ⟨k, v⟩ := e
    obtain ⟨hk, has⟩ := List.pairwise_cons.mp ha
    rcases bs with _ | ⟨⟨l, w⟩, bs⟩
    · have := h k
      simp [find?] at this
    · obtain ⟨hl, hbs⟩ := List.pairwise_cons.mp hb
      -- The smaller one of the first keys would be found on one side only.
      have hkl : k = l := by
        rcases trichotomous_of (· < ·) k l with hlt | heq | hlt
        · have hnone := hb.find?_eq_none_of_lt_head hlt
          rw [← h k] at hnone
          simp [find?] at hnone
        · exact heq
        · have hnone := ha.find?_eq_none_of_lt_head hlt
          rw [h l] at hnone
          simp [find?] at hnone
      subst hkl
      have hv : v = w := by
        have := h k
        simpa [find?] using this
      have hrest : ∀ key, find? key as = find? key bs := by
        intro key
        by_cases heq : key = k
        · subst heq
          rw [find?_eq_none_of_lt hk, find?_eq_none_of_lt hl]
        · have := h key
          simpa [find?, heq] using this
      rw [hv, ih has hbs hrest]

omit [DecidableLT κ] in
/-- Entries in order are equal if they have the same members. -/
theorem Sorted.ext_mem {as bs : List (κ × α)} (ha : Sorted as) (hb : Sorted bs)
    (h : ∀ key value, (key, value) ∈ as ↔ (key, value) ∈ bs) : as = bs := by
  refine ha.ext hb fun key => Option.ext fun value => ?_
  rw [ha.find?_eq_some_iff, hb.find?_eq_some_iff]
  exact h key value

omit [DecidableLT κ] in
/-- Entries in order have the same keys if something is found under the same keys. -/
theorem Sorted.keys_eq {as : List (κ × α)} {bs : List (κ × β)} (ha : Sorted as) (hb : Sorted bs)
    (h : ∀ key, (find? key as).isSome = (find? key bs).isSome) : keys as = keys bs := by
  have hkeys : ∀ {γ : Type} (es : List (κ × γ)),
      keys es = (es.map fun e => (e.1, ())).map Prod.fst := by
    intro γ es
    rw [List.map_map]
    rfl
  have hunit : (as.map fun e => (e.1, ())) = bs.map fun e => (e.1, ()) := by
    refine (ha.map fun _ => ()).ext (hb.map fun _ => ()) fun key => ?_
    rw [find?_map key (fun _ => ()), find?_map key (fun _ => ())]
    have hkey := h key
    rcases hx : find? key as with _ | a <;> rcases hy : find? key bs with _ | b <;>
      simp [hx, hy] at hkey ⊢
  rw [hkeys, hkeys, hunit]

/-! ## Lists of entries -/

/-- Entries are put in order alike if those of each key are the same. -/
theorem ofList_congr {as bs : List (κ × α)}
    (h : ∀ key, as.filter (fun e => e.1 = key) = bs.filter fun e => e.1 = key) :
    ofList as = ofList bs := by
  refine (sorted_ofList as).ext (sorted_ofList bs) fun key => ?_
  rw [find?_ofList, find?_ofList, ← find?_filter, ← find?_filter key bs.reverse,
    List.filter_reverse, List.filter_reverse, h key]

omit [DecidableLT κ] in
/-- Entries in order are found from either end. -/
theorem Sorted.find?_reverse {entries : List (κ × α)} (h : Sorted entries) (key : κ) :
    find? key entries.reverse = find? key entries := by
  induction entries with
  | nil => rfl
  | cons e rest ih =>
    obtain ⟨hk, hrest⟩ := List.pairwise_cons.mp h
    rw [List.reverse_cons, find?_append, ih hrest]
    simp only [find?]
    split
    · rename_i heq
      rw [heq, find?_eq_none_of_lt hk]
      rfl
    · exact Option.or_none

/-- Entries in order stay as they are. -/
theorem Sorted.ofList_eq {entries : List (κ × α)} (h : Sorted entries) :
    ofList entries = entries := by
  refine (sorted_ofList entries).ext h fun key => ?_
  rw [find?_ofList, h.find?_reverse]

/-- Another value in the last entry of a key takes the place of the first one. -/
theorem ofList_replaced {as bs : List (κ × α)} {key : κ} (v w : α) (h : ∀ e ∈ bs, e.1 ≠ key) :
    ofList (as ++ (key, w) :: bs) = insert key w (ofList (as ++ (key, v) :: bs)) := by
  refine (sorted_ofList _).ext ((sorted_ofList _).insert key w) fun other => ?_
  rw [find?_insert, find?_ofList_of_last w h, find?_ofList_of_last v h]
  split <;> rfl

end

end Verdict.Keyed
