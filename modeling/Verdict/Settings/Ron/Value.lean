-- The settings of a file in object notation, read from its tokens.
import Verdict.Settings.Ron.Token

namespace Verdict.Settings.Ron

/-! ## Names -/

/-- The value that a name stands for by itself. -/
def named? (name : String) : Option Setting :=
  match name with
  | "true" => some (.bool true)
  | "false" => some (.bool false)
  | "None" => some .missing
  | _ => (size? (withoutKind name.toList).1).map .float

/-- The name of a setting in a map. -/
def keyOf? : Setting → Option String
  | .text s => some s
  | _ => none

/-! ## Values -/

/-- The table of some entries. Of entries with one name the last stays. -/
def tableOf (entries : List (String × Setting)) : Setting := .table (Keyed.ofList entries)

mutual

/-- The value ahead. A name alone stands for nothing, but in front of a bracket it may tell what
is in it. -/
def value? : Nat → List Token → Option (Setting × List Token)
  | 0, _ => none
  | fuel + 1, ts =>
    match ts with
    | .text s :: rest => some (.text s, rest)
    | .number cs :: rest => (number? cs).map fun s => (s, rest)
    | .unit :: rest => some (.missing, rest)
    | .leftParen :: rest => group? fuel rest
    | .leftBracket :: rest => (items? fuel .rightBracket rest).map (Prod.map .array id)
    | .leftBrace :: rest => (entries? fuel rest).map (Prod.map tableOf id)
    | .name name :: rest =>
      match named? name, rest with
      | some s, _ => some (s, rest)
      | none, .leftParen :: inner => if name = "Some" then one? fuel inner else group? fuel inner
      | none, .unit :: after => if name = "Some" then none else some (.array [], after)
      | none, _ => if name = "Some" then none else some (.missing, rest)
    | _ => none

/-- The only value in brackets. -/
def one? : Nat → List Token → Option (Setting × List Token)
  | 0, _ => none
  | fuel + 1, ts =>
    match value? fuel ts with
    | some (s, .rightParen :: rest) | some (s, .comma :: .rightParen :: rest) => some (s, rest)
    | _ => none

/-- What stands in round brackets: settings with names, or values without. -/
def group? : Nat → List Token → Option (Setting × List Token)
  | 0, _ => none
  | fuel + 1, ts =>
    match ts with
    | .name _ :: .colon :: _ => (fields? fuel ts).map (Prod.map tableOf id)
    | _ => (items? fuel .rightParen ts).map (Prod.map .array id)

/-- Values with commas between them, up to a closing bracket. -/
def items? : Nat → Token → List Token → Option (List Setting × List Token)
  | 0, _, _ => none
  | fuel + 1, close, ts =>
    match ts with
    | [] => none
    | t :: rest =>
      if t = close then some ([], rest)
      else match value? fuel ts with
        | some (s, .comma :: rest) => (items? fuel close rest).map (Prod.map (s :: ·) id)
        | some (s, t :: rest) => if t = close then some ([s], rest) else none
        | _ => none

/-- Settings with names, up to the closing bracket. -/
def fields? : Nat → List Token → Option (List (String × Setting) × List Token)
  | 0, _ => none
  | fuel + 1, ts =>
    match ts with
    | .rightParen :: rest => some ([], rest)
    | .name name :: .colon :: rest =>
      match value? fuel rest with
      | some (s, .comma :: rest) => (fields? fuel rest).map (Prod.map ((name, s) :: ·) id)
      | some (s, .rightParen :: rest) => some ([(name, s)], rest)
      | _ => none
    | _ => none

/-- Settings with texts for names, up to the closing brace. -/
def entries? : Nat → List Token → Option (List (String × Setting) × List Token)
  | 0, _ => none
  | fuel + 1, ts =>
    match ts with
    | .rightBrace :: rest => some ([], rest)
    | _ =>
      match value? fuel ts with
      | some (k, .colon :: rest) =>
        match keyOf? k, value? fuel rest with
        | some name, some (s, .comma :: rest) =>
          (entries? fuel rest).map (Prod.map ((name, s) :: ·) id)
        | some name, some (s, .rightBrace :: rest) => some ([(name, s)], rest)
        | _, _ => none
      | _ => none

end

/-! ## Files -/

/-- The extensions that a file may ask for. None of them has an effect on settings. -/
def extensions : List String :=
  ["unwrap_newtypes", "implicit_some", "unwrap_variant_newtypes", "explicit_struct_names"]

/-- The names in a request for extensions. -/
def extensionNames? : List Token → Option (List String)
  | [.name s] | [.name s, .comma] => some [s]
  | .name s :: .comma :: rest => (extensionNames? rest).map (s :: ·)
  | _ => none

/-- A request for extensions is well formed, by the text in its brackets. -/
def isRequest (cs : List Char) : Bool :=
  match tokens? (cs.length + 1) cs with
  | some (.leftParen :: ts) =>
    ts.getLast? == some .rightParen &&
      (extensionNames? ts.dropLast).any fun names => names.all extensions.contains
  | _ => false

/-- What follows the requests for extensions at the start of a text. -/
def skipRequests? : Nat → List Char → Option (List Char)
  | 0, _ => none
  | fuel + 1, cs =>
    match skipSpace? cs with
    | some ('#' :: '!' :: '[' :: 'e' :: 'n' :: 'a' :: 'b' :: 'l' :: 'e' :: rest) =>
      match textUntil? [']'] rest with
      | some (inner, after) => if isRequest inner then skipRequests? fuel after else none
      | none => none
    | rest => rest

/-- The settings of a text, which is a group with names or a map. -/
def read? (text : String) : Option (List (String × Setting)) := do
  let cs ← skipRequests? (text.toList.length + 1) text.toList
  let ts ← tokens? (cs.length + 1) cs
  match ← value? (4 * (ts.length + 1)) ts with
  | (.table entries, []) => some entries
  | _ => none

end Verdict.Settings.Ron
