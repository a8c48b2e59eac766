-- Paths into JSON values. A path names a step between any two of its points, a key
-- or the place of an item. Every part of a value that such steps lead to has a path,
-- and a path leads to no other part.
import Mathlib.Data.List.Forall2
import Verdict.Proofs.Record

namespace Verdict

/-! ## Separators -/

namespace Text

variable {separator : Char} {cs part : List Char}

theorem split_eq_splitOn (separator : Char) (cs : List Char) :
    split separator cs = cs.splitOn separator := by
  induction cs with
  | nil => rfl
  | cons c cs ih =>
    rw [split, ih, List.splitOn_cons_eq_if_modifyHead]
    have hne := List.splitOn_ne_nil separator cs
    by_cases hc : c = separator
    · cases hparts : cs.splitOn separator with
      | nil => exact absurd hparts hne
      | cons part parts => simp [hc]
    · cases hparts : cs.splitOn separator with
      | nil => exact absurd hparts hne
      | cons part parts => simp [hc]

/-- No separator is left in a part. -/
theorem not_mem_of_mem_split (h : part ∈ split separator cs) : separator ∉ part := by
  induction cs generalizing part with
  | nil => simp_all [split]
  | cons c cs ih =>
    rw [split] at h
    rcases hparts : split separator cs with _ | ⟨first, parts⟩
    · exact absurd hparts (split_ne_nil separator cs)
    · rw [hparts] at h ih
      have hfirst := ih List.mem_cons_self
      simp only at h
      by_cases hc : c = separator
      · rw [if_pos hc] at h
        rcases List.mem_cons.mp h with rfl | h
        · simp
        · exact ih h
      · rw [if_neg hc] at h
        rcases List.mem_cons.mp h with rfl | h
        · intro hmem
          rcases List.mem_cons.mp hmem with rfl | hmem
          · exact hc rfl
          · exact hfirst hmem
        · exact ih (List.mem_cons_of_mem _ h)

end Text

namespace Json

/-! ## Steps -/

/-- A step into a value: to the member of an object under a key, or to the item of an array at a
place. -/
inductive Step where
  | member (key : String)
  | item (place : Nat)

namespace Step

/-- The step as a path writes it. -/
def text : Step → String
  | member key => key
  | item place => Text.natText place

/-- A path can name the step. A point would part a key in two, and no array has more items than an
index can count. -/
def IsNameable : Step → Prop
  | member key => '.' ∉ key.toList
  | item place => place ≤ Text.maxIndex

/-- A part of a path can be taken for the step: the key itself, or a number that is the place. -/
def IsNamed (part : List Char) : Step → Prop
  | member key => part = key.toList
  | item place => Text.readIndex? part = some place

end Step

variable {step : Step} {steps : List Step} {part : List Char} {parts : List (List Char)}
  {j w : Json}

/-- The part of a value that a step leads to. -/
def part? : Step → Json → Option Json
  | .member key, .obj fields => Keyed.find? key fields
  | .item place, .arr items => items[place]?
  | _, _ => none

/-- The part of a value that some steps lead to, one after another. -/
def partAt? : List Step → Json → Option Json
  | [], j => some j
  | step :: steps, j => (part? step j).bind (partAt? steps)

/-- The path of some steps: a point stands between any two of them. -/
def path (steps : List Step) : String := ".".intercalate (steps.map Step.text)

theorem Step.isNamed_text (h : step.IsNameable) : step.IsNamed step.text.toList := by
  cases step with
  | member key => rfl
  | item place =>
    unfold IsNamed text Text.natText
    rw [String.toList_ofList]
    exact Text.readIndex?_natDigits h

theorem Step.point_not_mem_text (h : step.IsNameable) : '.' ∉ step.text.toList := by
  cases step with
  | member key => exact h
  | item place =>
    intro hmem
    unfold text Text.natText at hmem
    rw [String.toList_ofList] at hmem
    have hdigit := Text.isDigit_of_mem_natDigits hmem
    simp at hdigit

theorem Step.IsNamed.isNameable (h : step.IsNamed part) (hpart : '.' ∉ part) :
    step.IsNameable := by
  cases step with
  | member key =>
    unfold IsNamed at h
    rw [h] at hpart
    exact hpart
  | item place => exact Text.readIndex?_le h

/-- The kind of a value tells how a part of a path is taken. -/
theorem step?_eq_some_iff :
    j.step? part = some w ↔ ∃ step : Step, step.IsNamed part ∧ j.part? step = some w := by
  constructor
  · intro h
    cases j with
    | obj fields => exact ⟨.member (String.ofList part), by simp [Step.IsNamed], h⟩
    | arr items =>
      obtain ⟨place, hplace, hitem⟩ := Option.bind_eq_some_iff.mp h
      exact ⟨.item place, hplace, hitem⟩
    | null | bool _ | int _ | float _ | str _ => cases h
  · rintro ⟨step, hnamed, h⟩
    cases step with
    | member key =>
      cases j with
      | obj fields =>
        unfold Step.IsNamed at hnamed
        rw [hnamed, step?, String.ofList_toList]
        exact h
      | null | bool _ | int _ | float _ | str _ | arr _ => cases h
    | item place =>
      cases j with
      | arr items =>
        rw [step?, hnamed]
        exact h
      | null | bool _ | int _ | float _ | str _ | obj _ => cases h

/-! ## Paths -/

/-- By induction on the parts: each of them is taken for one step. -/
theorem follow?_eq_some_iff : j.follow? parts = some w ↔
    ∃ steps : List Step, List.Forall₂ Step.IsNamed parts steps ∧ j.partAt? steps = some w := by
  induction parts generalizing j with
  | nil => simp [follow?, partAt?]
  | cons part parts ih =>
    rw [follow?, Option.bind_eq_some_iff]
    constructor
    · rintro ⟨v, hv, h⟩
      obtain ⟨step, hnamed, hstep⟩ := step?_eq_some_iff.mp hv
      obtain ⟨steps, hall, hsteps⟩ := ih.mp h
      refine ⟨step :: steps, List.Forall₂.cons hnamed hall, ?_⟩
      rw [partAt?, hstep]
      exact hsteps
    · rintro ⟨steps, hall, h⟩
      cases hall with
      | cons hnamed hall =>
        rw [partAt?] at h
        obtain ⟨v, hv, hsteps⟩ := Option.bind_eq_some_iff.mp h
        exact ⟨v, step?_eq_some_iff.mpr ⟨_, hnamed, hv⟩, ih.mpr ⟨_, hall, hsteps⟩⟩

/-- The points of a path stand between its steps only. -/
theorem split_path (hne : steps ≠ []) (h : ∀ step ∈ steps, step.IsNameable) :
    Text.split '.' (path steps).toList = steps.map fun step => step.text.toList := by
  unfold path
  rw [String.toList_intercalate, List.map_map, Text.split_eq_splitOn]
  apply List.splitOn_intercalate '.'
  · intro part hpart
    obtain ⟨step, hstep, rfl⟩ := List.mem_map.mp hpart
    exact Step.point_not_mem_text (h step hstep)
  · simpa using hne

theorem forall₂_isNamed_text (h : ∀ step ∈ steps, step.IsNameable) :
    List.Forall₂ Step.IsNamed (steps.map fun step => step.text.toList) steps := by
  rw [List.forall₂_map_left_iff, List.forall₂_same]
  intro step hstep
  exact Step.isNamed_text (h step hstep)

/-- The steps that a path is taken for can be named. -/
theorem isNameable_of_split {p : String}
    (h : List.Forall₂ Step.IsNamed (Text.split '.' p.toList) steps) :
    steps ≠ [] ∧ ∀ step ∈ steps, step.IsNameable := by
  constructor
  · rintro rfl
    exact Text.split_ne_nil '.' p.toList (List.forall₂_nil_right_iff.mp h)
  · intro step hstep
    obtain ⟨i, hi, hget⟩ := List.getElem_of_mem hstep
    have hlength := h.length_eq
    have hnamed := h.get (show i < (Text.split '.' p.toList).length by omega) hi
    rw [List.get_eq_getElem, List.get_eq_getElem, hget] at hnamed
    exact hnamed.isNameable (Text.not_mem_of_mem_split (List.getElem_mem _))

theorem atPath?_join (j : Json) (p q : String) :
    j.atPath? (p ++ "." ++ q) = (j.atPath? p).bind fun w => w.atPath? q := by
  unfold atPath?
  have hchars : (p ++ "." ++ q).toList = p.toList ++ '.' :: q.toList := by simp
  rw [hchars, Text.split_append, follow?_append]

/-- Steps that can be named lead to the part under their path, whose text is the field of that
name. Paths joined by a point lead on from part to part. A path leads to a part exactly if it can
be taken for steps that lead there. -/
theorem every_part_has_a_path_and_no_path_leads_elsewhere (j : Json) :
    (∀ (steps : List Step) (w : Json), steps ≠ [] → (∀ step ∈ steps, step.IsNameable) →
      j.partAt? steps = some w →
        j.atPath? (path steps) = some w ∧
          (Record.document j).field? (path steps) = w.plainText?) ∧
    (∀ p q : String, j.atPath? (p ++ "." ++ q) = (j.atPath? p).bind fun w => w.atPath? q) ∧
    ∀ (p : String) (w : Json), j.atPath? p = some w ↔
      ∃ steps : List Step, steps ≠ [] ∧ (∀ step ∈ steps, step.IsNameable) ∧
        List.Forall₂ Step.IsNamed (Text.split '.' p.toList) steps ∧ j.partAt? steps = some w := by
  refine ⟨fun steps w hne hnameable h => ?_, atPath?_join j, fun p w => ?_⟩
  · have hpath : j.atPath? (path steps) = some w := by
      unfold atPath?
      rw [split_path hne hnameable]
      exact follow?_eq_some_iff.mpr ⟨steps, forall₂_isNamed_text hnameable, h⟩
    refine ⟨hpath, ?_⟩
    unfold Record.field?
    simp [hpath]
  · unfold atPath?
    rw [follow?_eq_some_iff]
    constructor
    · rintro ⟨steps, hnamed, h⟩
      obtain ⟨hne, hnameable⟩ := isNameable_of_split hnamed
      exact ⟨steps, hne, hnameable, hnamed, h⟩
    · rintro ⟨steps, -, -, hnamed, h⟩
      exact ⟨steps, hnamed, h⟩

/-- An empty key, a place and a key that looks like one. The place may be written in other ways. -/
theorem a_part_below_an_empty_key_has_a_path :
    let j := Json.obj [("", .arr [.null, .obj [("1", .int 7)]])]
    let steps := [Step.member "", .item 1, .member "1"]
    j.partAt? steps = some (.int 7) ∧ path steps = ".1.1" ∧ j.atPath? (path steps) = some (.int 7) ∧
      (Record.document j).field? (path steps) = some "7" ∧ j.atPath? ".+01.1" = some (.int 7) := by
  intro j steps
  have hsteps : j.partAt? steps = some (.int 7) := by
    simp [j, steps, partAt?, part?, Keyed.find?]
  have hnameable : ∀ step ∈ steps, step.IsNameable := by
    simp [steps, Step.IsNameable, Text.maxIndex]
  have hkey (key : String) : (Step.member key).IsNamed key.toList := rfl
  have hplace : (Step.item 1).IsNamed "+01".toList := by
    unfold Step.IsNamed
    decide +kernel
  have hsplit : Text.split '.' (".+01.1" : String).toList =
      ["".toList, "+01".toList, "1".toList] := by decide +kernel
  have hother : List.Forall₂ Step.IsNamed (Text.split '.' (".+01.1" : String).toList) steps := by
    rw [hsplit]
    exact .cons (hkey "") (.cons hplace (.cons (hkey "1") .nil))
  obtain ⟨hfound, -, hleads⟩ := every_part_has_a_path_and_no_path_leads_elsewhere j
  obtain ⟨hpath, hfield⟩ := hfound steps _ (by simp [steps]) hnameable hsteps
  have htext : (Json.int 7).plainText? = some "7" := by decide +kernel
  exact ⟨hsteps, by decide +kernel, hpath, hfield.trans htext,
    (hleads ".+01.1" _).mpr ⟨steps, by simp [steps], hnameable, hother, hsteps⟩⟩

end Json

end Verdict
