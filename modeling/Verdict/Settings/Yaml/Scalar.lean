-- Single values in settings that are ordered by indentation: what a text
-- without quotes stands for, with a tag and without.
import Verdict.Decimal.Reading
import Verdict.Settings.Tree
import Verdict.Settings.Yaml.Cursor

namespace Verdict.Settings.Yaml

inductive Scalar where
  /-- A text that does not fit its tag. -/
  | unfit
  | missing
  | bool (b : Bool)
  | int (n : Int)
  /-- A number with a point or an exponent, as it is written. -/
  | real (text : List Char)
  | text (text : List Char)
deriving DecidableEq, Repr

namespace Scalar

/-! ## Reading -/

/-- A whole number within 64 bits in another base than ten. It may have a sign. -/
def based? (base : Nat) (cs : List Char) : Option Int := do
  let (negative, digits) := match cs with
    | '-' :: rest => (true, rest)
    | '+' :: rest => (false, rest)
    | _ => (false, cs)
  let values ← digits.mapM Text.hexValue?
  let size := values.foldl (fun n d => base * n + d) 0
  let n : Int := if negative then -(size : Int) else size
  if digits ≠ [] ∧ values.all (· < base) ∧ Text.inInt64 n then some n else none

/-- A whole number with a sign of its base in front of it, or with a plus sign. -/
def marked? : List Char → Option Int
  | '0' :: 'x' :: rest => based? 16 rest
  | '0' :: 'o' :: rest => based? 8 rest
  | '+' :: rest => Text.readInt? rest
  | _ => none

/-- The words for what is no finite number. -/
def infiniteWords : List (List Char) :=
  [".inf", ".Inf", ".INF", "+.inf", "+.Inf", "+.INF", "-.inf", "-.Inf", "-.INF",
   ".nan", ".NaN", ".NAN"].map String.toList

def isReal (cs : List Char) : Bool :=
  infiniteWords.contains cs || (Decimal.readNumeral? cs).isSome

/-- The words for yes that need no tag. Other mixtures of cases are texts. -/
def trueWords : List (List Char) := ["true", "True", "TRUE"].map String.toList

/-- The words for no that need no tag. -/
def falseWords : List (List Char) := ["false", "False", "FALSE"].map String.toList

/-- The words for nothing that need no tag. -/
def missingWords : List (List Char) := ["~", "null", "NULL"].map String.toList

def plainTruth? (cs : List Char) : Option Bool :=
  if trueWords.contains cs then some true
  else if falseWords.contains cs then some false
  else none

/-- The truth value behind a tag, where only the small letters count. -/
def taggedTruth? (cs : List Char) : Option Bool :=
  if cs = ['t', 'r', 'u', 'e'] then some true
  else if cs = ['f', 'a', 'l', 's', 'e'] then some false
  else none

/-- Whether a text behind a tag is nothing. Only the small letters count here too. -/
def isTaggedMissing (cs : List Char) : Bool := cs == ['~'] || cs == ['n', 'u', 'l', 'l']

/-- What a text without quotes and without a tag stands for. -/
def ofPlain (cs : List Char) : Scalar :=
  match marked? cs with
  | some n => int n
  | none =>
    if cs.isEmpty || missingWords.contains cs then missing
    else match plainTruth? cs, Text.readInt? cs with
      | some b, _ => bool b
      | none, some n => int n
      | none, none => if isReal cs then real cs else text cs

/-- What a text without quotes stands for by one of the tags that are known to all. -/
def ofTagged (suffix cs : List Char) : Scalar :=
  match String.ofList suffix with
  | "bool" => ((taggedTruth? cs).map bool).getD unfit
  | "int" => ((Text.readInt? cs).map int).getD unfit
  | "float" => if isReal cs then real cs else unfit
  | "null" => if isTaggedMissing cs then missing else unfit
  | _ => text cs

/-! ## Settings -/

/-- The setting of a scalar. A number must have digits, and what does not fit its tag is
nothing. -/
def setting? : Scalar → Option Setting
  | unfit | missing => some .missing
  | bool b => some (.bool b)
  | int n => some (.int n)
  | real cs => (Decimal.readNumeral? cs).map fun n => .float n.toFloat
  | text cs => some (.text (String.ofList cs))

/-- The name that a scalar is as a key. -/
def name? : Scalar → Option String
  | unfit | missing => none
  | bool b => some (if b then "true" else "false")
  | int n => some (Text.intText n)
  | real cs => some (String.ofList cs)
  | text cs => some (String.ofList cs)

end Scalar

end Verdict.Settings.Yaml
