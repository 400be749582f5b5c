/-
# Configuration

Where the plugins lie and what their files are called, the sizes of caches and samples, what is loaded
and set at the start, and settings of the log.  A configuration is read from a TOML document, in which
everything may be missing and unknown keys do not count.  The environment names the home directory
before any document does.
-/
import RuntimeBridge.Toml.Reader
import RuntimeBridge.Toml.Printer
import RuntimeBridge.Config.Logging
import RuntimeBridge.Error.Basic
namespace RuntimeBridge

/-- The part of a configuration that changes the settings of the log. -/
structure LogSection where
  level : Option String := none
  file : Option String := none
  json : Bool := false
  deriving DecidableEq, Repr

structure Config where
  /-- The directory of the plugins. -/
  home : Option String := none
  /-- What the names of plugin files begin with. -/
  pluginLead : String := "xllr."
  /-- Cells of the cache of each thread. -/
  cacheCells : Nat := 100
  /-- Elements looked at when the type of an array of handles is sampled. -/
  handleSamples : Nat := 3
  /-- Plugins to load at the start. -/
  preload : List String := []
  /-- Flags to set at the start. -/
  flags : List String := []
  /-- Plugins whose entities stay on the thread that resolved them. -/
  threadBound : List String := []
  log : LogSection := {}
  deriving DecidableEq, Repr

/-! ## 1. Reading -/

/-- What is read under a key, or a default if there is nothing. -/
def settingOr {α : Type} (default : α) (read : Toml → Option α) (key : String)
    (entries : List (String × Toml)) : Option α :=
  match entries.lookup key with
  | some v => read v
  | none => some default

/-- A text that may be missing. -/
def optionalText (v : Toml) : Option (Option String) :=
  v.text?.map some

def listOfTexts (v : Toml) : Option (List String) :=
  v.items?.bind fun items => items.mapM Toml.text?

/-- A number that is not negative. -/
def count (v : Toml) : Option Nat :=
  v.integer?.bind fun n => if n < 0 then none else some n.toNat

namespace LogSection

/-- The section in a table. -/
def ofEntries? (entries : List (String × Toml)) : Option LogSection := do
  let level ← settingOr none optionalText "level" entries
  let file ← settingOr none optionalText "file" entries
  let json ← settingOr false Toml.boolean? "json" entries
  return { level, file, json }

/-- The section in a value: a table, or a list of level, file and form in this order.  A date has
no entries that count. -/
def ofToml? : Toml → Option LogSection
  | .table entries => ofEntries? entries
  | .array items => ofEntries? (["level", "file", "json"].zip items)
  | .moment => some {}
  | _ => none

end LogSection

namespace Config

/-- The configuration in the entries of a document. -/
def ofEntries? (entries : List (String × Toml)) : Option Config := do
  let home ← settingOr none optionalText "home" entries
  let pluginLead ← settingOr "xllr." Toml.text? "plugin_prefix" entries
  let cacheCells ← settingOr 100 count "cdt_cache_size" entries
  let handleSamples ← settingOr 3 count "handle_type_samples" entries
  let preload ← settingOr [] listOfTexts "preload" entries
  let flags ← settingOr [] listOfTexts "flags" entries
  let threadBound ← settingOr [] listOfTexts "thread_affinity" entries
  let log ← settingOr {} LogSection.ofToml? "log" entries
  return { home, pluginLead, cacheCells, handleSamples, preload, flags, threadBound, log }

/-- The configuration in a document. -/
def parse (document : String) : Except BridgeError Config :=
  match (Toml.parse? document).bind ofEntries? with
  | some config => .ok config
  | none => .error (.config "failed to parse config")

/-! ## 2. Writing -/

/-- The document of a configuration. -/
def toText (c : Config) : Outcome String := do
  let home ← Toml.optionalLine "home" c.home
  let pluginLead ← Toml.quote c.pluginLead
  let preload ← Toml.quoteList c.preload
  let flags ← Toml.quoteList c.flags
  let threadBound ← Toml.quoteList c.threadBound
  let level ← Toml.optionalLine "level" c.log.level
  let file ← Toml.optionalLine "file" c.log.file
  return home ++ Toml.line "plugin_prefix" pluginLead ++
    Toml.line "cdt_cache_size" c.cacheCells.repr ++
    Toml.line "handle_type_samples" c.handleSamples.repr ++
    Toml.line "preload" preload ++ Toml.line "flags" flags ++
    Toml.line "thread_affinity" threadBound ++
    "\n[log]\n" ++ level ++ file ++ Toml.line "json" (if c.log.json then "true" else "false")

/-! ## 3. Places of plugins -/

/-- A path seen from a directory; a path from the root is its own. -/
def joinPath (directory path : String) : String :=
  if path.toList.head? == some '/' || directory.isEmpty then path
  else if directory.toList.getLast? == some '/' then directory ++ path
  else directory ++ "/" ++ path

/-- The name of a plugin's file. -/
def pluginFile (c : Config) (name : String) : String :=
  c.pluginLead ++ name ++ ".so"

/-- The place of a plugin's file. -/
def pluginPath (c : Config) (name : String) : Except BridgeError String :=
  match c.home with
  | some home => .ok (joinPath home (c.pluginFile name))
  | none => .error .homeNotSet

/-- The entities of a plugin stay on the thread that resolved them. -/
def bindsThread (c : Config) (plugin : String) : Bool :=
  c.threadBound.contains plugin

/-! ## 4. Loading -/

/-- The name of the configuration file in the home directory. -/
def fileName : String := "xllr.toml"

/-- The home directory that an environment names. -/
def homeOf (env : Environment) : Option String := env.get? "XLLR_HOME"

/-- The configuration in a file whose document is given if it can be read; the environment's home
directory counts more than the file's. -/
def load (env : Environment) (document : Option String) : Except BridgeError Config :=
  match document with
  | none => .error (.config "failed to read")
  | some document =>
    match parse document with
    | .ok c => .ok { c with home := (homeOf env).or c.home }
    | .error e => .error e

/-- The configuration of an environment, where `files` knows the documents of files: the one in the
home directory, or else the defaults. -/
def ofEnvironment (env : Environment) (files : String → Option String) :
    Except BridgeError Config :=
  match homeOf env with
  | none => .ok {}
  | some home =>
    match files (joinPath home fileName) with
    | some document => load env (some document)
    | none => .ok { home := some home }

/-- The settings of the log: those of the environment, changed by the configuration. -/
def logSettings (c : Config) (env : Environment) : LogSettings :=
  let start := LogSettings.ofEnvironment env
  { start with
    level := (c.log.level.map LogLevel.parse).getD start.level
    path := c.log.file.or start.path
    json := start.json || c.log.json }

end Config

end RuntimeBridge
