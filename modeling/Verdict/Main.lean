-- The program: it reads the files and variables, and prints what the
-- command line answers.
import Std.Time.Format
import Verdict.CommandLine
import Verdict.Text.Uuid

namespace Verdict

/-- The variables that give settings. -/
def settingNames : List String :=
  ["RULES_SERVICE_NAME", "RULES_ENVIRONMENT", "RULES_ENGINE", "RULES_ENGINE__TRACE_ENABLED",
   "RULES_ENGINE__FLOAT_PRECISION", "RULES_OBSERVABILITY", "RULES_OBSERVABILITY__SERVICE_NAME",
   "RULES_OBSERVABILITY__LOG_LEVEL", "RULES_OBSERVABILITY__JSON_LOGS"]

/-- The variables that are looked at. Those of settings may have small names. -/
def variableNames : List String :=
  ["CONFIG_DIR", "RULES_ENV"] ++ settingNames ++ settingNames.map Setting.small

def readVariables : IO (List (String × String)) :=
  variableNames.filterMapM fun name => do
    return (← IO.getEnv name).map fun text => (name, text)

/-- The texts of the files that can be read. -/
def readFiles (paths : List String) : IO (List (String × String)) :=
  paths.filterMapM fun (path : String) => do
    try
      return some (path, ← IO.FS.readFile path)
    catch _ =>
      return none

/-- The present, by the clock of the machine. -/
def readClock : IO Moment := do
  let t ← Std.Time.PlainDateTime.now
  let date := (Date.ofParts? t.date.year t.date.month.val.toNat t.date.day.val.toNat).getD
    ⟨1970, 1, 1, by decide⟩
  let second := t.time.hour.val.toNat * 3600 + t.time.minute.val.toNat * 60
    + t.time.second.val.toNat
  return (Moment.ofParts? date second t.time.nanosecond.val.toNat).getD (.midnight date)

def makeId : IO String := do
  let bytes ← IO.getRandomBytes 16
  return Text.uuid (bytes.toList.map UInt8.toNat)

/-- Prints the evaluation of each record. -/
def printEvaluations (now : Moment) : RuleSet → List Json → IO Unit
  | _, [] => pure ()
  | s, data :: rest => do
    let start ← IO.monoMsNow
    let e := s.evaluate (.document data) now
    let stop ← IO.monoMsNow
    IO.println (e.json (stop - start)).text
    printEvaluations now (s.evaluated (.document data) now) rest

end Verdict

open Verdict

def main (arguments : List String) : IO UInt32 := do
  let blank : Invocation := ⟨arguments, ← readVariables, fun _ => none, ← makeId⟩
  let files ← readFiles blank.paths
  let i : Invocation := { blank with file? := fun path => files.lookup path }
  if i.settings?.isNone then
    IO.eprintln "Failed to load config, using defaults"
  match i.work with
  | .error complaint =>
    IO.eprintln ("Error: " ++ complaint.message)
    return 1
  | .ok (ruleSet, records) =>
    printEvaluations (← readClock) ruleSet records
    return 0
