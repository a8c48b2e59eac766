-- The command line: one rule set, many records, one line for each
-- record. What is read from files and variables comes in as values.
import Verdict.Settings.Basic
import Verdict.Store

namespace Verdict

/-- What the program starts with. -/
structure Invocation where
  arguments : List String
  /-- The variables of the environment, with their values. -/
  environmentVariables : List (String × String)
  /-- The text of the file at a path, if it can be read. -/
  file? : String → Option String
  /-- The id of a rule set that has none. -/
  newId : String

namespace Invocation

/-! ## Settings -/

def serviceName : String := "rule-engine"

/-- The value of a variable, or another value if the variable is not there. -/
def variableOr (i : Invocation) (name default : String) : String :=
  (i.environmentVariables.lookup name).getD default

/-- A file in a directory. One that begins at the root stays where it is. -/
def joined (directory file : String) : String :=
  if directory = "" ∨ file.toList.head? = some '/' then file
  else if directory.toList.getLast? = some '/' then directory ++ file
  else directory ++ "/" ++ file

/-- The environment that the program runs in. -/
def environment (i : Invocation) : String := i.variableOr "RULES_ENV" "development"

/-- The path of a file of settings. -/
def settingsPath (i : Invocation) (file : String) : String :=
  joined (i.variableOr "CONFIG_DIR" "config") file

/-- The settings, if they can be loaded. -/
def settings? (i : Invocation) : Option Settings :=
  Settings.load? serviceName i.environment (fun name => i.file? (i.settingsPath name))
    i.environmentVariables

/-- The settings, or those without any file if they cannot be loaded. -/
def settings (i : Invocation) : Settings := i.settings?.getD {}

/-- The files that may be read. -/
def paths (i : Invocation) : List String :=
  i.arguments ++ (Settings.fileNames serviceName i.environment).flatMap fun file =>
    (Settings.places file).map fun place => i.settingsPath place.1

/-! ## Complaints -/

inductive Complaint where
  | usage
  | unreadable (path : String)
  | badRuleSet (path : String)
  | badRecords (path : String)
  /-- The records are neither an array nor an object. -/
  | notRecords (value : Json)

def Complaint.message : Complaint → String
  | usage => s!"用法: {serviceName} <ruleset.json> <records.json>"
  | unreadable path => s!"无法读取文件: {path}"
  | badRuleSet path => s!"规则集解析失败: {path}"
  | badRecords path => s!"记录文件解析失败: {path}"
  | notRecords value => s!"记录文件必须是 JSON 数组或对象，实际为: {value.text}"

/-! ## Files -/

def readFile (i : Invocation) (path : String) : Except Complaint String :=
  match i.file? path with
  | some text => .ok text
  | none => .error (.unreadable path)

/-- The rule set of a file. Nobody listens to its reports. -/
def readRuleSet (i : Invocation) (path : String) : Except Complaint RuleSet := do
  let text ← i.readFile path
  match RuleSetDefinition.ofText? text with
  | some d => .ok ((RuleSet.ofDefinition {} i.newId d).withOptions i.settings.engine)
  | none => .error (.badRuleSet path)

/-- The records of a file: the items of an array, or one object. -/
def readRecords (i : Invocation) (path : String) : Except Complaint (List Json) := do
  let text ← i.readFile path
  match Json.ofText? text with
  | some (.arr items) => .ok items
  | some (.obj fields) => .ok [.obj fields]
  | some value => .error (.notRecords value)
  | none => .error (.badRecords path)

/-- The rule set and the records that the arguments name. -/
def work (i : Invocation) : Except Complaint (RuleSet × List Json) :=
  match i.arguments with
  | [ruleSetPath, recordsPath] => do
    let ruleSet ← i.readRuleSet ruleSetPath
    let records ← i.readRecords recordsPath
    .ok (ruleSet, records)
  | _ => .error .usage

/-! ## Evaluations -/

/-- Evaluates a rule set on records, one after another. -/
def evaluateAll (now : Moment) (s : RuleSet) : List Json → List Evaluation
  | [] => []
  | r :: rest =>
    s.evaluate (.document r) now :: evaluateAll now (s.evaluated (.document r) now) rest

/-- What the program answers. -/
def run (i : Invocation) (now : Moment) : Except Complaint (List Evaluation) := do
  let (ruleSet, records) ← i.work
  .ok (evaluateAll now ruleSet records)

end Invocation

end Verdict
