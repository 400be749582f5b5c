/-
# Settings of the log

How much is logged, where to, and in which form.  Settings come from presets or from the environment;
a configuration file may change some of them.
-/
import RuntimeBridge.Environment.Basic
namespace RuntimeBridge

inductive LogLevel where
  | trace | debug | info | warn | error
  deriving DecidableEq, Repr

namespace LogLevel

/-- The name of a level. -/
def name : LogLevel → String
  | trace => "TRACE"
  | debug => "DEBUG"
  | info => "INFO"
  | warn => "WARN"
  | error => "ERROR"

/-- The level of a name in any letter case; another name stands for `info`. -/
def parse (s : String) : LogLevel :=
  ([trace, debug, info, warn, error].find? fun l => sameIgnoringCase l.name s).getD info

end LogLevel

structure LogSettings where
  level : LogLevel := .info
  /-- The file to log to; without one the log goes to the console. -/
  path : Option String := none
  json : Bool := false
  /-- Entering and leaving of spans is logged. -/
  spans : Bool := false
  /-- Times are taken. -/
  performance : Bool := true
  deriving DecidableEq, Repr

namespace LogSettings

/-- Settings for paths that are taken often. -/
def quiet : LogSettings := { level := .error, performance := false }

/-- Settings that leave nothing out. -/
def verbose : LogSettings := { level := .trace, path := some "xllr.log", spans := true }

/-- The settings that an environment asks for. -/
def ofEnvironment (env : Environment) : LogSettings where
  level := ((env.get? "XLLR_LOG_LEVEL").map LogLevel.parse).getD .info
  path := env.get? "XLLR_LOG_FILE"
  json := (env.get? "XLLR_LOG_JSON").isSome
  spans := (env.get? "XLLR_LOG_SPANS").isSome
  performance :=
    match env.get? "XLLR_LOG_PERF" with
    | some value => value == "1" || sameIgnoringCase value "true"
    | none => true

end LogSettings

end RuntimeBridge
