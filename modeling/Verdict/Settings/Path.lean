-- Paths to settings: a name, then names behind points and places in
-- brackets. A layer gives its settings by paths.
import Verdict.Settings.Tree
import Verdict.Text.Integer

namespace Verdict

/-- One step into a setting. -/
inductive SettingStep where
  | name (s : String)
  /-- A place in an array. Places below zero count from its end. -/
  | place (i : Int)
deriving DecidableEq, Repr

namespace SettingStep

/-! ## Reading -/

def isNameChar (c : Char) : Bool := c.isAlphanum || c == '_' || c == '-'

def isBlank (c : Char) : Bool := c == ' ' || c == '\t'

/-- A place in brackets, without a plus sign, and what follows it. -/
def readPlace? (cs : List Char) : Option (Int × List Char) :=
  let cs := cs.dropWhile isBlank
  let number := cs.takeWhile fun c => c.isDigit || c == '-'
  match (cs.drop number.length).dropWhile isBlank with
  | ']' :: rest => (Text.readInt? number).map fun i => (i, rest)
  | _ => none

theorem length_of_readPlace? {cs after : List Char} {i : Int}
    (h : readPlace? cs = some (i, after)) : after.length < cs.length := by
  simp only [readPlace?] at h
  split at h
  · rename_i rest hr
    obtain ⟨_, _, h⟩ := Option.map_eq_some_iff.1 h
    cases h
    have h1 := (List.dropWhile_suffix isBlank (l := cs)).length_le
    have h2 := (List.dropWhile_suffix isBlank (l := (cs.dropWhile isBlank).drop
      ((cs.dropWhile isBlank).takeWhile fun c => c.isDigit || c == '-').length)).length_le
    rw [hr] at h2
    simp only [List.length_cons, List.length_drop] at h2
    omega
  · cases h

/-- The steps after the first name. -/
def readMore? : List Char → Option (List SettingStep)
  | [] => some []
  | '.' :: rest =>
    have := (List.dropWhile_suffix isNameChar (l := rest)).length_le
    match rest.takeWhile isNameChar with
    | [] => none
    | word => (readMore? (rest.dropWhile isNameChar)).map (.name (String.ofList word) :: ·)
  | '[' :: rest =>
    match h : readPlace? rest with
    | none => none
    | some (i, after) =>
      have := length_of_readPlace? h
      (readMore? after).map (.place i :: ·)
  | _ => none
termination_by cs => cs.length
decreasing_by all_goals (simp_wf; omega)

/-- The steps of a path. -/
def read? (cs : List Char) : Option (List SettingStep) :=
  match cs.takeWhile isNameChar with
  | [] => none
  | word => (readMore? (cs.dropWhile isNameChar)).map (.name (String.ofList word) :: ·)

/-- The steps of a key. One that is no path is a single name. -/
def ofKey (key : String) : List SettingStep := (read? key.toList).getD [.name key]

end SettingStep

namespace Setting

/-! ## Changes at a path -/

/-- Changes the item at a place of an array. The array grows up to a place behind its end, and
at its front for one before its start. -/
def changeItem (f : Setting → Setting) (i : Int) (xs : List Setting) : List Setting :=
  if 0 ≤ i then
    (xs ++ List.replicate (i.toNat + 1 - xs.length) missing).modify i.toNat f
  else
    (List.replicate ((-i).toNat - xs.length) missing ++ xs).modify (xs.length + i).toNat f

/-- Changes the setting at the end of a path. What is on the way is made to hold the next
step. -/
def change (f : Setting → Setting) : List SettingStep → Setting → Setting
  | [], s => f s
  | .name name :: steps, s => s.put name (change f steps ((s.child? name).getD missing))
  | .place i :: steps, s => array (changeItem (change f steps) i s.items)

/-- Lays settings that are given by their paths over a setting, one after another. -/
def overlayPaths (base : Setting) (given : List (String × Setting)) : Setting :=
  given.foldl (fun s e => change (overlay · e.2) (SettingStep.ofKey e.1) s) base

end Setting

end Verdict
