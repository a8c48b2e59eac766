-- The settings of a file: its statements, one after another, put into
-- one table.
import Verdict.Settings.Toml.Statement

namespace Verdict.Settings.Toml

/-- What was read of a file. -/
structure Document where
  root : Entries := []
  /-- The path of the table of the next value. -/
  current : List String := []

namespace Document

/-- Takes a statement in. -/
def add? (d : Document) : Statement → Option Document
  | .table path => (beginTable? path d.root).map fun root => ⟨root, path⟩
  | .row path => (beginInRow? path d.root).map fun root => ⟨root, path⟩
  | .value path s =>
    (within? .inner (fun _ es => putValue? path s es) d.current .heading d.root).map fun root =>
      { d with root }

end Document

/-- The mark of the order of bytes. A text may begin with it. -/
def orderMark : Char := '\ufeff'

/-- The settings of a text. -/
def read? (text : String) : Option (List (String × Setting)) := do
  let cs := if text.toList.head? = some orderMark then text.toList.drop 1 else text.toList
  let d ← (← statements? cs).foldlM Document.add? {}
  some (settingsOf d.root)

end Verdict.Settings.Toml
