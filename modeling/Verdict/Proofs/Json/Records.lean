-- Records in JSON. A written object gives each of its fields once, and a field
-- that may be left out or a list is read again if its parts are.
import Verdict.Proofs.Json.Documents

namespace Verdict.Json

open Document

/-! ## The fields of a record -/

theorem isSome_memberDocuments (fields : List (String × Json)) :
    (memberDocuments fields).all (·.1.isSome) = true := by
  rw [memberDocuments_eq_map, List.all_map]
  refine List.all_eq_true.mpr fun field _ => ?_
  obtain ⟨key, value⟩ := field
  rfl

theorem given_eq_nil {fields : List (String × Json)} {key : String}
    (h : key ∉ fields.map Prod.fst) : given key (memberDocuments fields) = [] := by
  rw [memberDocuments_eq_map, given, List.filterMap_map]
  refine List.filterMap_eq_nil_iff.mpr fun field hf => ?_
  obtain ⟨k, v⟩ := field
  have hne : k ≠ key := by
    rintro rfl
    exact h (List.mem_map_of_mem hf)
  simp [memberDocument, hne]

/-- Of names that differ, each is given once. -/
theorem given_memberDocuments {fields : List (String × Json)} (h : (fields.map Prod.fst).Nodup)
    {key : String} {value : Json} (hm : (key, value) ∈ fields) :
    given key (memberDocuments fields) = [value.document] := by
  induction fields with
  | nil => cases hm
  | cons field fields ih =>
    obtain ⟨k, v⟩ := field
    obtain ⟨hk, hrest⟩ := List.nodup_cons.mp h
    have hcons : given key (memberDocuments ((k, v) :: fields)) =
        (if k = key then [v.document] else []) ++ given key (memberDocuments fields) := by
      unfold given
      rw [memberDocuments, memberDocument, List.filterMap_cons]
      by_cases heq : k = key <;> simp [heq]
    rw [hcons]
    rcases List.mem_cons.mp hm with hfirst | hm
    · cases hfirst
      rw [if_pos rfl, given_eq_nil hk]
      rfl
    · have hne : k ≠ key := by
        intro heq
        rw [heq] at hk
        exact hk (List.mem_map.mpr ⟨_, hm, rfl⟩)
      rw [if_neg hne, ih hrest hm]
      rfl

theorem byName?_eq {all : List (StringText × Document)} {fields : List (String × Json)}
    (h : ∀ field ∈ fields, given field.1 all = [field.2.document]) :
    byName? all (fields.map Prod.fst) = some (fields.map fun f => some f.2.document) := by
  induction fields with
  | nil => rfl
  | cons field fields ih =>
    have hfield := h field List.mem_cons_self
    have hrest := ih fun f hf => h f (List.mem_cons_of_mem _ hf)
    rw [List.map_cons, byName?, hfield, hrest]
    rfl

/-- A written object has all its fields. -/
theorem named?_document (fields : List (String × Json)) (h : (fields.map Prod.fst).Nodup) :
    (document (.obj fields)).named? (fields.map Prod.fst) =
      some (fields.map fun f => some f.2.document) := by
  rw [document, named?, if_pos (isSome_memberDocuments fields)]
  exact byName?_eq fun field hf => given_memberDocuments h hf

theorem fields?_document {fields : List (String × Json)} (h : (fields.map Prod.fst).Nodup) :
    (document (.obj fields)).fields? (fields.map Prod.fst) =
      some (fields.map fun f => some f.2.document) := named?_document fields h

theorem document_eq_null {j : Json} : j.document = .null ↔ j = .null := by
  cases j <;> simp [document]

/-! ## What is a value -/

theorem isValue_arr {depth : Nat} {items : List Json} (hdepth : depth ≠ 0)
    (h : ∀ item ∈ items, item.document.isValue (depth - 1) = true) :
    (document (.arr items)).isValue depth = true := by
  have hvalues : (values? (depth - 1) (documents items)).isSome = true := by
    induction items with
    | nil => rfl
    | cons item items ih =>
      obtain ⟨v, hv⟩ := Option.isSome_iff_exists.mp (h item List.mem_cons_self)
      obtain ⟨vs, hvs⟩ := Option.isSome_iff_exists.mp
        (ih fun i hi => h i (List.mem_cons_of_mem _ hi))
      rw [documents, values?, hv, hvs]
      rfl
  rw [isValue, document, value?, if_neg hdepth, Option.isSome_map]
  exact hvalues

theorem isValue_obj {depth : Nat} {fields : List (String × Json)} (hdepth : depth ≠ 0)
    (h : ∀ field ∈ fields, field.2.document.isValue (depth - 1) = true) :
    (document (.obj fields)).isValue depth = true := by
  have hmembers : (members? (depth - 1) (memberDocuments fields)).isSome = true := by
    induction fields with
    | nil => rfl
    | cons field fields ih =>
      obtain ⟨key, value⟩ := field
      obtain ⟨v, hv⟩ := Option.isSome_iff_exists.mp (h (key, value) List.mem_cons_self)
      obtain ⟨ms, hms⟩ := Option.isSome_iff_exists.mp
        (ih fun f hf => h f (List.mem_cons_of_mem _ hf))
      have hmember : member? (depth - 1) (memberDocument (key, value)) = some (key, v) := by
        unfold memberDocument member?
        simp only [hv]
      rw [memberDocuments, members?, hmember, hms]
      rfl
  rw [isValue, document, value?, if_neg hdepth, Option.isSome_map]
  exact hmembers

/-! ## What is read as it is written -/

variable {α : Type} {read : Document → Option α} {write : α → Json}

/-- A text that may be left out is read as it is written. -/
theorem optional?_text (o : Option String) :
    optional? string? (some (ofOption .str o).document) = some o := by
  cases o <;> rfl

theorem optional?_of_ne_null {d : Document} (h : d ≠ .null) :
    optional? read (some d) = (read d).map some := by
  cases d with
  | null => exact absurd rfl h
  | _ => rfl

theorem exists_of_optional? {o : Option Document} {a : α}
    (h : optional? read o = some (some a)) : ∃ d, d ≠ .null ∧ read d = some a := by
  rcases o with _ | d
  · cases h
  · by_cases hd : d = .null
    · rw [hd] at h
      cases h
    · rw [optional?_of_ne_null hd] at h
      obtain ⟨b, hb, hab⟩ := Option.map_eq_some_iff.mp h
      cases hab
      exact ⟨d, hd, hb⟩

/-- A field that may be left out is read as it is written, if null stands for nothing only. -/
theorem optional?_document {o : Option α} (hnull : ∀ a, o = some a → write a ≠ .null)
    (h : ∀ a, o = some a → read (write a).document = some a) :
    optional? read (some (ofOption write o).document) = some o := by
  rcases o with _ | a
  · rfl
  · have hwritten : (write a).document ≠ .null := fun heq =>
      hnull a rfl (document_eq_null.mp heq)
    rw [ofOption, optional?_of_ne_null hwritten, h a rfl]
    rfl

/-- The items of a list are read as they are written. -/
theorem mapM_documents {as : List α} (h : ∀ a ∈ as, read (write a).document = some a) :
    (documents (as.map write)).mapM read = some as := by
  induction as with
  | nil => rfl
  | cons a as ih =>
    have hfirst := h a List.mem_cons_self
    have hrest := ih fun b hb => h b (List.mem_cons_of_mem a hb)
    rw [List.map_cons, documents, List.mapM_cons, hfirst, hrest]
    rfl

theorem exists_of_mem_mapM {items : List Document} {as : List α}
    (has : items.mapM read = some as) {a : α} (ha : a ∈ as) : ∃ d ∈ items, read d = some a := by
  induction items generalizing as with
  | nil =>
    cases has
    cases ha
  | cons d items ih =>
    rw [List.mapM_cons] at has
    obtain ⟨b, hb, hrest⟩ := Option.bind_eq_some_iff.mp has
    obtain ⟨rest, hitems, heq⟩ := Option.bind_eq_some_iff.mp hrest
    cases heq
    rcases List.mem_cons.mp ha with rfl | ha
    · exact ⟨d, List.mem_cons_self, hb⟩
    · obtain ⟨e, he, hread⟩ := ih hitems ha
      exact ⟨e, List.mem_cons_of_mem _ he, hread⟩

/-! ## What is read again -/

/-- What was read from any document is read again from the one that is written for it. -/
def ReadsAgain (read : Document → Option α) (write : α → Json) : Prop :=
  ∀ d a, read d = some a → Exact (write a) → read (write a).document = some a

theorem readsAgain_value (depth : Nat) : ReadsAgain (value? depth) id :=
  fun d j h hexact => value?_document depth d j h hexact

theorem ReadsAgain.optional (h : ReadsAgain read write)
    (hnull : ∀ d a, d ≠ .null → read d = some a → write a ≠ .null) {o : Option Document}
    {r : Option α} (hr : optional? read o = some r) (hexact : Exact (ofOption write r)) :
    optional? read (some (ofOption write r).document) = some r := by
  apply optional?_document
  · rintro a rfl
    obtain ⟨d, hne, hd⟩ := exists_of_optional? hr
    exact hnull d a hne hd
  · rintro a rfl
    obtain ⟨d, -, hd⟩ := exists_of_optional? hr
    exact h d a hd hexact

theorem ReadsAgain.list (h : ReadsAgain read write) {items : List Document} {as : List α}
    (has : items.mapM read = some as) (hexact : Exact (.arr (as.map write))) :
    (documents (as.map write)).mapM read = some as := by
  apply mapM_documents
  intro a ha
  obtain ⟨d, -, hd⟩ := exists_of_mem_mapM has ha
  exact h d a hd (exact_arr.mp hexact _ (List.mem_map_of_mem ha))

end Verdict.Json
