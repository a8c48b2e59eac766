-- Tables of a file of settings while the file is read. How a table came
-- to be decides whether later lines may add to it.
import Verdict.Settings.Tree

namespace Verdict.Settings.Toml

/-- How a table came to be. -/
inductive Origin where
  /-- By a heading of its own. -/
  | heading
  /-- By a heading of a table in it. -/
  | inner
  /-- By a path with points in front of a value. -/
  | points
deriving DecidableEq, Repr

/-- What stands under a name. -/
inductive Node where
  | value (s : Setting)
  | table (origin : Origin) (entries : List (String × Node))
  /-- Tables with a heading for each, the last first. -/
  | row (tables : List (List (String × Node)))
deriving Inhabited

abbrev Entries := List (String × Node)

/-! ## Settings -/

mutual

/-- The setting of a node. -/
def Node.setting : Node → Setting
  | .value s => s
  | .table _ es => .table (settingsOf es)
  | .row tables => .array (rowOf tables).reverse

def settingsOf : Entries → List (String × Setting)
  | [] => []
  | (name, node) :: rest => (name, node.setting) :: settingsOf rest

def rowOf : List Entries → List Setting
  | [] => []
  | es :: rest => .table (settingsOf es) :: rowOf rest

end

/-! ## Changes -/

/-- Changes the table at the end of a path. Tables that are not there are made with the given
origin, and of a row the last table is meant. A path with points leads through no table that has a
heading, and takes over those that are only there for a table in them. -/
def within? (made : Origin) (edit : Origin → Entries → Option Entries) :
    List String → Origin → Entries → Option Entries
  | [], origin, es => edit origin es
  | name :: names, _, es =>
    let put (node : Node) : Entries := Keyed.insert name node es
    match Keyed.find? name es with
    | none => (within? made edit names made []).map fun inner => put (.table made inner)
    | some (.table origin inner) =>
      if made = .points ∧ origin = .heading then none
      else
        let origin := if made = .points then .points else origin
        (within? made edit names origin inner).map fun inner => put (.table origin inner)
    | some (.row (last :: before)) =>
      (within? made edit names .heading last).map fun last => put (.row (last :: before))
    | some _ => none

/-- Puts a value into a table. The name must be new there, and a path with points must end in a
table that came to be by such a path. -/
def putValue? (path : List String) (s : Setting) (es : Entries) : Option Entries :=
  match path.getLast? with
  | none => none
  | some name =>
    within? .points (fun origin es =>
      if (path.dropLast ≠ [] ∧ origin ≠ .points) ∨ (Keyed.find? name es).isSome then none
      else some (Keyed.insert name (.value s) es)) path.dropLast .heading es

/-- Begins a table by its heading. It must be new, or only there for a table in it. -/
def beginTable? (path : List String) (es : Entries) : Option Entries :=
  match path.getLast? with
  | none => none
  | some name =>
    within? .inner (fun _ es =>
      match Keyed.find? name es with
      | none => some (Keyed.insert name (.table .heading []) es)
      | some (.table .inner inner) => some (Keyed.insert name (.table .heading inner) es)
      | some _ => none) path.dropLast .heading es

/-- Begins the next table of a row. -/
def beginInRow? (path : List String) (es : Entries) : Option Entries :=
  match path.getLast? with
  | none => none
  | some name =>
    within? .inner (fun _ es =>
      match Keyed.find? name es with
      | none => some (Keyed.insert name (.row [[]]) es)
      | some (.row tables) => some (Keyed.insert name (.row ([] :: tables)) es)
      | some _ => none) path.dropLast .heading es

end Verdict.Settings.Toml
