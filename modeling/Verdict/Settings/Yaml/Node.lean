-- The values in settings that are ordered by indentation, put together
-- from their tokens.
import Verdict.Settings.Yaml.Scalar
import Verdict.Settings.Yaml.Token

namespace Verdict.Settings.Yaml

inductive Node where
  | scalar (s : Scalar)
  | list (items : List Node)
  /-- A mapping, by its keys and values in turn. -/
  | mapping (nodes : List Node)
deriving Inhabited

/-- The value where nothing stands. -/
def Node.nothing : Node := .scalar .missing

/-! ## What is read -/

structure Reader where
  tokens : List Token
  /-- The values by their names, the last first. A value that is not complete is not there yet. -/
  named : List (List Char × Option Node) := []
  /-- What a handle stands for. Only the last directive counts. -/
  handle : Option (List Char × List Char) := none

/-- What may stand in front of a value. -/
structure Properties where
  anchor : Option (List Char) := none
  tag : Option Tag := none
deriving DecidableEq, Repr

namespace Reader

def goto (r : Reader) (tokens : List Token) : Reader := { r with tokens }

/-- What the handle of the tags that are known to all stands for. -/
def coreLead : List Char := "tag:yaml.org,2002:".toList

/-- The tag with what its handle stands for. A handle with two marks must have been told. -/
def resolve? (r : Reader) (t : Tag) : Option Tag :=
  match r.handle.filter (·.1 == t.handle) with
  | some (_, lead) => some { t with handle := lead }
  | none =>
    if t.handle = ['!', '!'] then some { t with handle := coreLead }
    else if isWholeHandle t.handle then none
    else some t

/-- The anchor and the tag ahead, in either order. -/
def properties? (r : Reader) : Option (Properties × Reader) :=
  match r.tokens with
  | .anchor a :: .tag t :: rest | .tag t :: .anchor a :: rest =>
    (r.resolve? t).map fun t => (⟨some a, some t⟩, r.goto rest)
  | .anchor a :: rest => some (⟨some a, none⟩, r.goto rest)
  | .tag t :: rest => (r.resolve? t).map fun t => (⟨none, some t⟩, r.goto rest)
  | _ => some ({}, r)

/-- Notes what is known of the value with an anchor. -/
def note (r : Reader) (p : Properties) (n : Option Node) : Reader :=
  match p.anchor with
  | none => r
  | some name => { r with named := (name, n) :: r.named }

/-- The value with a name. One that is not complete fits nowhere. -/
def named? (r : Reader) (name : List Char) : Option Node :=
  (r.named.find? (·.1 == name)).map fun known => known.2.getD (.scalar .unfit)

end Reader

/-- The scalar of a text. A text in quotes stands for itself. -/
def Properties.scalar (p : Properties) (plain : Bool) (cs : List Char) : Scalar :=
  match plain, p.tag with
  | false, _ => .text cs
  | true, none => .ofPlain cs
  | true, some t => if t.handle = Reader.coreLead then .ofTagged t.suffix cs else .text cs

/-! ## Values -/

/-- No entry stands between a dash and what follows it. -/
def endsEntry (dashes : Bool) : List Token → Bool
  | .dash :: _ | .blockEnd :: _ => true
  | .key :: _ | .value :: _ => dashes
  | _ => false

/-- No key or value stands in front of the next line of a mapping. -/
def endsLine : List Token → Bool
  | .key :: _ | .value :: _ | .blockEnd :: _ => true
  | _ => false

/-- No key or value stands in front of the next entry in braces. -/
def endsMember (inKey : Bool) : List Token → Bool
  | .comma :: _ | .rightBrace :: _ => true
  | .value :: _ => inKey
  | _ => false

mutual

/-- The value ahead. Lists and mappings by indentation are read with `block`, and with `dashes` a
list that is no further indented than the mapping around it. -/
def node? : Nat → Bool → Bool → Reader → Option (Node × Reader)
  | 0, _, _, _ => none
  | fuel + 1, block, dashes, r =>
    match r.tokens with
    | .reference name :: rest => (r.named? name).map fun n => (n, r.goto rest)
    | _ => do
      let (p, r) ← r.properties?
      let (n, r) ← content? fuel block dashes p (r.note p none)
      some (n, r.note p (some n))

/-- The value after its anchor and tag. With one of these it may be left out. -/
def content? : Nat → Bool → Bool → Properties → Reader → Option (Node × Reader)
  | 0, _, _, _, _ => none
  | fuel + 1, block, dashes, p, r =>
    match r.tokens, block, dashes with
    | .dash :: _, _, true => (entries? fuel true r).map (Prod.map .list id)
    | .scalar plain text :: rest, _, _ => some (.scalar (p.scalar plain text), r.goto rest)
    | .opening .bracket :: rest, _, _ => (items? fuel true (r.goto rest)).map (Prod.map .list id)
    | .opening .brace :: rest, _, _ =>
      (members? fuel true (r.goto rest)).map (Prod.map .mapping id)
    | .opening .entries :: rest, true, _ =>
      (entries? fuel false (r.goto rest)).map (Prod.map .list id)
    | .opening .lines :: rest, true, _ => (lines? fuel (r.goto rest)).map (Prod.map .mapping id)
    | _, _, _ => if p = {} then none else some (.scalar (p.scalar true []), r)

/-- The value ahead, unless it is left out. -/
def part? : Nat → Bool → Bool → Bool → Reader → Option (Node × Reader)
  | 0, _, _, _, _ => none
  | fuel + 1, leftOut, block, dashes, r =>
    if leftOut then some (.nothing, r) else node? fuel block dashes r

/-- The entries behind their dashes. Those that are not further indented end where no dash
stands. -/
def entries? : Nat → Bool → Reader → Option (List Node × Reader)
  | 0, _, _ => none
  | fuel + 1, dashes, r =>
    match r.tokens, dashes with
    | .dash :: rest, _ => do
      let (n, r) ← part? fuel (endsEntry dashes rest) true false (r.goto rest)
      let (ns, r) ← entries? fuel dashes r
      some (n :: ns, r)
    | .blockEnd :: rest, false => some ([], r.goto rest)
    | _, true => some ([], r)
    | _, false => none

/-- The lines of a mapping: a key, and the value behind its colon. Either may be left out. -/
def lines? : Nat → Reader → Option (List Node × Reader)
  | 0, _ => none
  | fuel + 1, r =>
    match r.tokens with
    | .blockEnd :: rest => some ([], r.goto rest)
    | .key :: rest => do
      let (k, r) ← part? fuel (endsLine rest) true true (r.goto rest)
      lineValue? fuel k r
    | .value :: _ => lineValue? fuel .nothing r
    | _ => none

/-- The value after a key, and the lines after it. -/
def lineValue? : Nat → Node → Reader → Option (List Node × Reader)
  | 0, _, _ => none
  | fuel + 1, k, r => do
    let (v, r) ← match r.tokens with
      | .value :: rest => part? fuel (endsLine rest) true true (r.goto rest)
      | _ => some (.nothing, r)
    let (ns, r) ← lines? fuel r
    some (k :: v :: ns, r)

/-- The items in brackets. Between any two of them stands a comma. -/
def items? : Nat → Bool → Reader → Option (List Node × Reader)
  | 0, _, _ => none
  | fuel + 1, first, r =>
    match r.tokens, first with
    | .rightBracket :: rest, _ => some ([], r.goto rest)
    | .comma :: rest, false => item? fuel (r.goto rest)
    | _, true => item? fuel r
    | _, false => none

/-- The item ahead and those after it. -/
def item? : Nat → Reader → Option (List Node × Reader)
  | 0, _ => none
  | fuel + 1, r =>
    match r.tokens with
    | .rightBracket :: rest => some ([], r.goto rest)
    | _ => do
      let (n, r) ← node? fuel false false r
      let (ns, r) ← items? fuel false r
      some (n :: ns, r)

/-- The members in braces. Between any two of them stands a comma. -/
def members? : Nat → Bool → Reader → Option (List Node × Reader)
  | 0, _, _ => none
  | fuel + 1, first, r =>
    match r.tokens, first with
    | .rightBrace :: rest, _ => some ([], r.goto rest)
    | .comma :: rest, false => member? fuel (r.goto rest)
    | _, true => member? fuel r
    | _, false => none

/-- The member ahead and those after it. Its key or its value may be left out. -/
def member? : Nat → Reader → Option (List Node × Reader)
  | 0, _ => none
  | fuel + 1, r =>
    match r.tokens with
    | .rightBrace :: rest => some ([], r.goto rest)
    | .key :: rest => do
      let (k, r) ← part? fuel (endsMember true rest) false false (r.goto rest)
      memberValue? fuel k r
    | .value :: _ => memberValue? fuel .nothing r
    | _ => do
      let (k, r) ← node? fuel false false r
      let (ns, r) ← members? fuel false r
      some (k :: .nothing :: ns, r)

/-- The value after a key in braces, and the members after it. -/
def memberValue? : Nat → Node → Reader → Option (List Node × Reader)
  | 0, _, _ => none
  | fuel + 1, k, r => do
    let (v, r) ← match r.tokens with
      | .value :: rest => part? fuel (endsMember false rest) false false (r.goto rest)
      | _ => some (.nothing, r)
    let (ns, r) ← members? fuel false r
    some (k :: v :: ns, r)

end

namespace Reader

/-- As much as any value in the tokens can need. -/
def fuel (r : Reader) : Nat := 6 * (r.tokens.length + 1)

/-! ## Documents -/

/-- Reads the directives in front of a document. -/
def directives (r : Reader) : List Token → Reader
  | .directive .version :: rest => { r with handle := none }.directives rest
  | .directive (.handle handle lead) :: rest =>
    { r with handle := some (handle, lead) }.directives rest
  | rest => r.goto rest

/-- A document without a value ends here. -/
def endsDocument : List Token → Bool
  | [] | .directive _ :: _ | .documentStart :: _ | .documentEnd :: _ => true
  | _ => false

/-- The value of a document after the marker of its start. -/
def marked? (r : Reader) : Option (Node × Reader) :=
  match r.tokens with
  | .documentStart :: rest =>
    if endsDocument rest then some (.nothing, r.goto rest)
    else node? r.fuel true false (r.goto rest)
  | _ => none

mutual

/-- The values of the documents. The first document needs no marker in front of it, nor does one
after the marker of an end. Directives go only before such a marker. -/
def documents? : Nat → Bool → Reader → Option (List Node)
  | 0, _, _ => none
  | fuel + 1, unmarked, r =>
    match r.tokens with
    | [] => some []
    | .documentEnd :: rest => documents? fuel unmarked (r.goto rest)
    | .directive _ :: _ | .documentStart :: _ => do
      let (n, r) ← (r.directives r.tokens).marked?
      let ns ← after? fuel r
      some (n :: ns)
    | _ =>
      if unmarked then do
        let (n, r) ← node? r.fuel true false r
        let ns ← after? fuel r
        some (n :: ns)
      else none

/-- The values of the documents after one. They know nothing of its names and directives. -/
def after? : Nat → Reader → Option (List Node)
  | 0, _ => none
  | fuel + 1, r =>
    match r.tokens with
    | .documentEnd :: rest => documents? fuel true { tokens := rest }
    | .directive _ :: _ => none
    | _ => documents? fuel false { tokens := r.tokens }

end

end Reader

/-! ## Settings -/

mutual

/-- The setting of a value. -/
def Node.setting? : Node → Option Setting
  | .scalar s => s.setting?
  | .list items => (settings? items).map .array
  | .mapping nodes => (fields? [] nodes).map fun fields => .table (Keyed.ofList fields)

def settings? : List Node → Option (List Setting)
  | [] => some []
  | n :: rest =>
    match n.setting?, settings? rest with
    | some s, some ss => some (s :: ss)
    | _, _ => none

/-- The settings of keys and values in turn, after some keys. A key is a scalar and stands there
once. One that does not fit its tag is passed over, and what follows it is a key. -/
def fields? (seen : List Scalar) : List Node → Option (List (String × Setting))
  | [] => some []
  | .scalar .unfit :: rest => fields? seen rest
  | [_] => some []
  | .scalar k :: v :: rest =>
    if seen.contains k then none
    else match k.name?, v.setting?, fields? (k :: seen) rest with
      | some name, some s, some fields => some ((name, s) :: fields)
      | _, _, _ => none
  | _ => none

end

/-- The settings of a text: of its only document, which is a mapping. An empty text has none. -/
def read? (text : String) : Option (List (String × Setting)) := do
  let tokens ← tokens? (text.toList.takeWhile (· != endMark))
  match ← Reader.documents? (2 * tokens.length + 2) true { tokens } with
  | [] => some []
  | [n] =>
    match n.setting? with
    | some (.table entries) => some entries
    | _ => none
  | _ => none

end Verdict.Settings.Yaml
