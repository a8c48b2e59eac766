-- The forms of a record. A row of a table, a map and a flat object of texts are
-- looked up by different rules, and give the same texts for the names that all
-- rules understand alike.
import Mathlib.Data.List.Pairwise
import Verdict.Proofs.Keyed
import Verdict.Record

namespace Verdict

/-! ## Paths of one step -/

namespace Text

theorem split_of_not_mem {separator : Char} {cs : List Char} (h : separator ∉ cs) :
    split separator cs = [cs] := by
  induction cs with
  | nil => rfl
  | cons c cs ih =>
    obtain ⟨hc, hcs⟩ := not_or.mp (mt List.mem_cons.mpr h)
    rw [split, ih hcs]
    exact if_neg (Ne.symm hc)

theorem sameName_self (name : String) : sameName name name = true := beq_self_eq_true _

theorem sameName_comm (a b : String) : sameName a b = sameName b a := Bool.beq_comm

end Text

namespace Json

theorem follow?_str {steps : List (List Char)} (h : steps ≠ []) (text : String) :
    follow? steps (.str text) = none := by
  rcases steps with _ | ⟨step, steps⟩
  · exact absurd rfl h
  · rfl

/-- A path without a point has one step. -/
theorem atPath?_of_not_mem {path : String} (h : '.' ∉ path.toList) (fields : List (String × Json)) :
    (obj fields).atPath? path = Keyed.find? path fields := by
  unfold atPath?
  rw [Text.split_of_not_mem h]
  simp only [follow?, step?, String.ofList_toList]
  exact Option.bind_fun_some _

/-- The flat object of some texts. -/
def ofTexts (entries : List (String × String)) : Json :=
  .obj (Keyed.ofList (entries.map fun e => (e.1, .str e.2)))

theorem find?_texts (entries : List (String × String)) (name : String) :
    Keyed.find? name (Keyed.ofList (entries.map fun e => (e.1, Json.str e.2))) =
      (Keyed.find? name entries.reverse).map Json.str := by
  rw [Keyed.find?_ofList, ← List.map_reverse, Keyed.find?_map]

/-- A path with a point leads nowhere in a flat object: there is nothing below a text. -/
theorem atPath?_ofTexts_of_mem {path : String} (h : '.' ∈ path.toList)
    (entries : List (String × String)) : (ofTexts entries).atPath? path = none := by
  obtain ⟨front, back, hpath⟩ := List.append_of_mem h
  unfold atPath? ofTexts
  rw [hpath, Text.split_append]
  rcases hsteps : Text.split '.' front with _ | ⟨step, steps⟩
  · exact absurd hsteps (Text.split_ne_nil _ _)
  · rw [List.cons_append, follow?, step?, find?_texts]
    have hbelow : steps ++ Text.split '.' back ≠ [] :=
      List.append_ne_nil_of_right_ne_nil _ (Text.split_ne_nil _ _)
    cases Keyed.find? (String.ofList step) entries.reverse with
    | none => rfl
    | some text => exact follow?_str hbelow text

end Json

/-! ## Cells -/

namespace Record

/-- Cells under headers that are different names, none of them with a point. -/
structure PlainCells (cells : List (String × String)) : Prop where
  different : cells.Pairwise fun a b => Text.sameName a.1 b.1 = false
  no_point : ∀ e ∈ cells, '.' ∉ e.1.toList

/-- The name is one of the headers exactly, or it is the name of none of them. -/
def IsPlainName (cells : List (String × String)) (name : String) : Prop :=
  (∃ e ∈ cells, e.1 = name) ∨ ∀ e ∈ cells, Text.sameName e.1 name = false

/-- The forms that a record of some cells can have: a row, a map without an order, a map in the
order of the names, and a flat object. -/
inductive IsFormOf (cells : List (String × String)) : Record → Prop where
  | row : IsFormOf cells (.ofCells cells)
  | map {entries : List (String × String)} (h : entries.Perm cells) :
      IsFormOf cells (.fields entries)
  | sorted : IsFormOf cells (.fields (Keyed.ofList cells))
  | object : IsFormOf cells (.document (.ofTexts cells))

variable {cells : List (String × String)} {name : String}

theorem PlainCells.nodup_keys (h : PlainCells cells) : (Keyed.keys cells).Nodup := by
  unfold Keyed.keys List.Nodup
  rw [List.pairwise_map]
  refine h.different.imp fun {a b} hab heq => ?_
  rw [heq, Text.sameName_self] at hab
  cases hab

/-- A header of the same name is the name itself. -/
theorem PlainCells.eq_of_sameName (h : PlainCells cells) (hname : IsPlainName cells name)
    {e : String × String} (he : e ∈ cells) (hsame : Text.sameName e.1 name = true) :
    e.1 = name := by
  rcases hname with ⟨f, hf, rfl⟩ | hnone
  · by_contra hne
    have hsymm : Std.Symm fun a b : String × String => Text.sameName a.1 b.1 = false :=
      ⟨fun a b hab => (Text.sameName_comm b.1 a.1).trans hab⟩
    have hdifferent := h.different.forall he hf fun heq => hne (heq ▸ rfl)
    rw [hsame] at hdifferent
    cases hdifferent
  · rw [hnone e he] at hsame
    cases hsame

/-! ## Lookups -/

theorem cell?_eq (h : ∀ e ∈ cells, Text.sameName e.1 name = true → e.1 = name) :
    cell? name (cells.map Prod.fst) (cells.map Prod.snd) = Keyed.find? name cells := by
  induction cells with
  | nil => rfl
  | cons e cells ih =>
    simp only [List.map_cons, cell?, Keyed.find?, List.head?_cons, List.tail_cons]
    by_cases hname : name = e.1
    · rw [if_pos hname, hname, Text.sameName_self, if_pos rfl]
    · have hother : ¬ Text.sameName e.1 name = true :=
        fun hsame => hname (h e List.mem_cons_self hsame).symm
      rw [if_neg hname, if_neg hother]
      exact ih fun f hf => h f (List.mem_cons_of_mem e hf)

theorem PlainCells.find?_reverse (h : PlainCells cells) (name : String) :
    Keyed.find? name cells.reverse = Keyed.find? name cells :=
  (Keyed.find?_perm (List.reverse_perm cells).symm h.nodup_keys name).symm

theorem field?_object (h : PlainCells cells) (name : String) :
    (Record.document (.ofTexts cells)).field? name = Keyed.find? name cells := by
  show ((Json.ofTexts cells).atPath? name).bind Json.plainText? = _
  by_cases hpoint : '.' ∈ name.toList
  · have hnone : Keyed.find? name cells = none :=
      Keyed.find?_eq_none fun e he heq => h.no_point e he (heq ▸ hpoint)
    rw [Json.atPath?_ofTexts_of_mem hpoint, hnone]
    rfl
  · unfold Json.ofTexts
    rw [Json.atPath?_of_not_mem hpoint, Json.find?_texts, h.find?_reverse]
    cases Keyed.find? name cells <;> rfl

/-- Every form gives the text under the name. -/
theorem field?_of_form {r : Record} (hr : IsFormOf cells r) (hcells : PlainCells cells)
    (hname : IsPlainName cells name) : r.field? name = Keyed.find? name cells := by
  cases hr with
  | row => exact cell?_eq fun e he => hcells.eq_of_sameName hname he
  | map h => exact (Keyed.find?_perm h.symm hcells.nodup_keys name).symm
  | sorted => exact (Keyed.find?_ofList name cells).trans (hcells.find?_reverse name)
  | object => exact field?_object hcells name

end Record

end Verdict
