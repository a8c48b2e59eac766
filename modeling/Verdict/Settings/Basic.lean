-- The settings of the program: what is built in, three files, and the
-- variables of the environment, each laid over those before it.
import Verdict.RuleSet.Basic
import Verdict.Settings.File
import Verdict.Settings.Path
import Verdict.Settings.Variables

namespace Verdict

/-- How the program tells about itself. -/
structure Logging where
  serviceName : String := ""
  level : String := "info"
  json : Bool := false
deriving DecidableEq, Repr

structure Settings where
  serviceName : String := ""
  environment : String := ""
  logging : Logging := {}
  engine : Options := {}
deriving DecidableEq, Repr

namespace Settings

def isProduction (s : Settings) : Bool := s.environment == "production"

/-- The logging under another name. -/
def withLoggingName (s : Settings) (name : String) : Settings :=
  { s with logging := { s.logging with serviceName := name } }

/-! ## From trees -/

/-- The value of a field of a group, or a value of its own if nothing is given. -/
def fieldOr? {α : Type} (read : Setting → Option α) (default : α) (name : String) (place : Nat)
    (s : Setting) : Option α :=
  match s.field? name place with
  | none => some default
  | some value => read value

def loggingOf? (s : Setting) : Option Logging :=
  if s.isGroup then do
    let name ← fieldOr? Setting.text? "" "service_name" 0 s
    let level ← fieldOr? Setting.text? "info" "log_level" 1 s
    let json ← fieldOr? Setting.bool? false "json_logs" 2 s
    some ⟨name, level, json⟩
  else none

def engineOf? (s : Setting) : Option Options :=
  if s.isGroup then do
    let trace ← fieldOr? Setting.bool? false "trace_enabled" 0 s
    let precision ← fieldOr? Setting.count? 2 "float_precision" 1 s
    some ⟨trace, precision⟩
  else none

/-- The settings of a tree. The name of the service also names the logging, unless that has a name
of its own. -/
def ofSetting? (s : Setting) : Option Settings := do
  let serviceName ← (s.child? "service_name").bind Setting.text?
  let environment ← (s.child? "environment").bind Setting.text?
  let logging ← ((s.child? "observability").map loggingOf?).getD (some {})
  let engine ← ((s.child? "engine").map engineOf?).getD (some {})
  let logging := if logging.serviceName = "" then { logging with serviceName } else logging
  some { serviceName, environment, logging, engine }

/-! ## Layers -/

/-- What is known before any file is read. -/
def builtIn (serviceName environment : String) : List (String × Setting) :=
  [("service_name", .text serviceName), ("environment", .text environment)]

/-- The files of settings without their endings, in the order in which they are laid over one
another. -/
def fileNames (serviceName environment : String) : List String :=
  ["default", environment, serviceName]

/-- The settings of a service. There are none if a file cannot be read, or if a value does not
fit. -/
def load? (serviceName environment : String) (file? : String → Option String)
    (given : List (String × String)) : Option Settings := do
  let files ← (fileNames serviceName environment).mapM (fileSettings? file?)
  ofSetting? ((builtIn serviceName environment :: files ++ [Variables.settings given]).foldl
    Setting.overlayPaths (.table []))

end Settings

end Verdict
