-- Settings in the variables of the environment. The name of a variable
-- gives the path of the setting: `RULES_ENGINE__TRACE_ENABLED` is the
-- setting `trace_enabled` of the table `engine`.
import Verdict.Settings.Tree
import Verdict.Text.Ascii

namespace Verdict.Settings.Variables

/-! ## Names -/

/-- What the names of the variables begin with, in small letters. -/
def heading : List Char := ['r', 'u', 'l', 'e', 's', '_']

/-- Points in the place of double low lines. -/
def withPoints : List Char → List Char
  | [] => []
  | '_' :: '_' :: rest => '.' :: withPoints rest
  | c :: rest => c :: withPoints rest

/-- The path of the setting that a variable gives, in small letters. -/
def path? (name : String) : Option String :=
  let small := Text.lower name.toList
  if heading.isPrefixOf small then some (String.ofList (withPoints (small.drop heading.length)))
  else none

/-! ## Values -/

/-- The words for numbers that have no digits. -/
def special? (cs : List Char) : Option Float :=
  let (negative, word) := match cs with
    | '-' :: rest => (true, rest)
    | '+' :: rest => (false, rest)
    | _ => (false, cs)
  let word := String.ofList (Text.asciiLowered word)
  let size : Option Float :=
    if word = "inf" ∨ word = "infinity" then some (Float.ofBits 0x7FF0000000000000)
    else if word = "nan" then some (Float.ofBits 0x7FF8000000000000)
    else none
  size.map fun x => if negative then -x else x

/-- A truth value or a number, if the text can be read as one. -/
def value (text : String) : Setting :=
  let small := Setting.small text
  if small = "true" then .bool true
  else if small = "false" then .bool false
  else match Text.readInt? text.toList with
    | some n => .int n
    | none =>
      match Decimal.readNumeral? text.toList with
      | some n => .float n.toFloat
      | none =>
        match special? text.toList with
        | some x => .float x
        | none => .text text

/-- The settings of the variables by their paths. -/
def settings (given : List (String × String)) : List (String × Setting) :=
  given.filterMap fun (name, text) => (path? name).map fun path => (path, value text)

end Verdict.Settings.Variables
