-- Reports to the people who keep the rules: what was found wrong, where,
-- and in which rule set.
import Verdict.Text.Quoted

namespace Verdict

inductive Severity where
  | info | warning | error
deriving DecidableEq, Repr

def Severity.name : Severity → String
  | info => "info"
  | warning => "warning"
  | error => "error"

/-- A report without the rule set it comes from. -/
structure Report where
  severity : Severity
  message : String
  /-- Where it was found: the text of a formula, a condition, a value. -/
  context : String
deriving DecidableEq, Repr

namespace Report

def info (message context : String) : Report := ⟨.info, message, context⟩

def warning (message context : String) : Report := ⟨.warning, message, context⟩

def error (message context : String) : Report := ⟨.error, message, context⟩

end Report

/-- A report as it is delivered. -/
structure Diagnostic where
  report : Report
  /-- The rule set it comes from, as the reporter was told. -/
  sender : Option String
deriving DecidableEq, Repr

/-- Delivers reports. Without a listener they are lost. -/
structure Reporter where
  sender : Option String := none
  listening : Bool := false
deriving DecidableEq, Repr

namespace Reporter

def deliver (r : Reporter) (reports : List Report) : List Diagnostic :=
  if r.listening then reports.map fun report => ⟨report, r.sender⟩ else []

/-- The reporter under a name, if it has none of its own. -/
def named (r : Reporter) (name : String) : Reporter :=
  { r with sender := some (r.sender.getD name) }

/-- The reporter as it shows itself. -/
def text (r : Reporter) : String :=
  let sender := match r.sender with
    | none => "None"
    | some name => "Some(" ++ Text.quoted name ++ ")"
  "Diagnostics \x7b alias: " ++ sender ++ ", has_sink: "
    ++ (if r.listening then "true" else "false") ++ " \x7d"

end Reporter

end Verdict
