-- Files of settings: the names under which one is looked for, and how
-- its text is read.
import Verdict.Json.Document
import Verdict.Settings.Ini
import Verdict.Settings.Json5.Document
import Verdict.Settings.Ron.Value
import Verdict.Settings.Toml.Document
import Verdict.Settings.Yaml.Node

namespace Verdict

/-! ## JSON -/

namespace Setting

mutual

/-- The setting of a JSON value. -/
def ofJson : Json → Setting
  | .null => missing
  | .bool b => bool b
  | .int n => int n
  | .float x => float x
  | .str s => text s
  | .arr items => array (ofItems items)
  | .obj fields => table (ofFields fields)

def ofItems : List Json → List Setting
  | [] => []
  | j :: rest => ofJson j :: ofItems rest

def ofFields : List (String × Json) → List (String × Setting)
  | [] => []
  | (name, j) :: rest => (name, ofJson j) :: ofFields rest

end

end Setting

namespace Settings

/-! ## Formats -/

inductive FileFormat where
  | toml | json | yaml | ini | ron | json5
  /-- A file of which nothing is read. -/
  | unknown
deriving DecidableEq, Repr

/-- The settings of a text by their paths. -/
def FileFormat.read? (format : FileFormat) (text : String) : Option (List (String × Setting)) :=
  match format with
  | toml => Toml.read? text
  | json =>
    match Json.ofText? text with
    | some (.obj fields) => some (Setting.ofFields fields)
    | _ => none
  | yaml => Yaml.read? text
  | ini => Ini.read? text
  | ron => Ron.read? text
  | json5 => Json5.read? text
  | unknown => some []

/-- The endings of the formats, in the order in which they are tried. -/
def endings : List (String × FileFormat) :=
  [(".toml", .toml), (".json", .json), (".yaml", .yaml), (".yml", .yaml), (".ini", .ini),
   (".ron", .ron), (".json5", .json5)]

/-! ## Places of files -/

/-- A path ends in a name, which a file needs in front of its ending. -/
def endsInName (path : String) : Bool :=
  match path.toList.getLast? with
  | none => false
  | some c => c != '/'

/-- The paths under which a file is looked for, each with its format. The first ending is put to
the path, and then each ending behind that. -/
def places (path : String) : List (String × FileFormat) :=
  (path ++ ".toml", if endsInName path then .toml else .unknown) ::
    endings.map fun (ending, format) => (path ++ ".toml" ++ ending, format)

/-- The first of the files that is there, with its format. -/
def found? (file? : String → Option String) : List (String × FileFormat) →
    Option (String × FileFormat)
  | [] => none
  | (path, format) :: rest =>
    match file? path with
    | some text => some (text, format)
    | none => found? file? rest

/-- The settings of a file by their paths. One that is not there has none. A mark of the order
of bytes at its start is passed over. -/
def fileSettings? (file? : String → Option String) (path : String) :
    Option (List (String × Setting)) :=
  match found? file? (places path) with
  | none => some []
  | some (text, format) =>
    format.read? (if text.toList.head? = some Toml.orderMark then (text.drop 1).toString else text)

end Settings

end Verdict
