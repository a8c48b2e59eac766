-- Entries in the order of their keys, at most one entry for a key.

namespace Verdict.Keyed

variable {κ α : Type} [LT κ] [DecidableLT κ] [DecidableEq κ]

/-! ## Operations -/

/-- The value under a key. -/
def find? (key : κ) : List (κ × α) → Option α
  | [] => none
  | (k, v) :: rest => if key = k then some v else find? key rest

/-- Puts an entry at its place. One with the same key is replaced. -/
def insert (key : κ) (value : α) : List (κ × α) → List (κ × α)
  | [] => [(key, value)]
  | (k, v) :: rest =>
    if key = k then (key, value) :: rest
    else if key < k then (key, value) :: (k, v) :: rest
    else (k, v) :: insert key value rest

/-- Takes the entry with a key out. -/
def erase (key : κ) (entries : List (κ × α)) : List (κ × α) := entries.filter fun e => e.1 ≠ key

def keys (entries : List (κ × α)) : List κ := entries.map Prod.fst

def values (entries : List (κ × α)) : List α := entries.map Prod.snd

/-- The entries in the order of their keys. Of entries with one key the last stays. -/
def ofList (entries : List (κ × α)) : List (κ × α) :=
  entries.foldl (fun done e => insert e.1 e.2 done) []

/-! ## What is found -/

omit [LT κ] [DecidableLT κ] in
@[simp] theorem find?_nil (key : κ) : find? key ([] : List (κ × α)) = none := rfl

theorem find?_insert (key other : κ) (value : α) (entries : List (κ × α)) :
    find? other (insert key value entries) =
      if other = key then some value else find? other entries := by
  fun_induction insert key value entries <;> (simp_all [find?]; try grind)

omit [LT κ] [DecidableLT κ] in
theorem find?_erase (key other : κ) (entries : List (κ × α)) :
    find? other (erase key entries) = if other = key then none else find? other entries := by
  induction entries with
  | nil => simp [erase]
  | cons e rest ih =>
    simp only [erase] at ih ⊢
    by_cases h : e.1 = key <;> (simp_all [find?]; try grind)

end Verdict.Keyed
