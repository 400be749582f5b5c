/-
# The engine

The engine knows plugins by name.  A plugin is built in, or it is a library whose place the
configuration tells.  Plugins are started when they are first needed and run until they are freed;
each start makes an instance, which counts the entities and call points that were resolved through it
and not yet released.  An instance outlives its name: entities release themselves through the instance
that resolved them.

Main definitions: `Engine.loadPlugin` and `Engine.freePlugin`, between which an instance runs.
-/
import RuntimeBridge.Engine.Plugin
import RuntimeBridge.Config.Basic
namespace RuntimeBridge

/-- A started plugin, and how many entities live that were resolved through it. -/
structure PluginInstance (σ : Type) where
  plugin : Plugin σ
  live : UInt64 := 0

structure Engine (σ : Type) where
  config : Config := {}
  builtins : List (String × Plugin σ) := []
  /-- What lies at a path. -/
  files : String → PluginFile σ := fun _ => .absent
  /-- Every instance that was ever started. -/
  instances : List (PluginInstance σ) := []
  /-- Names with the number of the instance that runs under them, in order. -/
  running : List (String × Nat) := []
  flags : List String := []
  /-- How many plugins were started. -/
  pluginsLoaded : Nat := 0

/-- How an operation went, the engine, and the state of the process. -/
structure Stepped (σ α : Type) where
  outcome : Except BridgeError α
  engine : Engine σ
  state : σ

namespace Engine

variable {σ : Type}

/-! ## 1. Plugins -/

/-- Make a plugin loadable under its name. -/
def registerBuiltin (e : Engine σ) (p : Plugin σ) : Engine σ :=
  { e with builtins := (p.name, p) :: e.builtins.filter fun b => b.1 != p.name }

/-- The instance that runs under a name, with its number. -/
def instance? (e : Engine σ) (name : String) : Option (Nat × PluginInstance σ) :=
  (e.running.lookup name).bind fun k => e.instances[k]?.map fun i => (k, i)

def isLoaded (e : Engine σ) (name : String) : Bool :=
  (e.running.lookup name).isSome

/-- The names of the running plugins, in order. -/
def loadedPlugins (e : Engine σ) : List String :=
  e.running.map Prod.fst

/-- Find a plugin by name. -/
def openPlugin (e : Engine σ) (name : String) : Except BridgeError (Plugin σ) :=
  match e.builtins.lookup name with
  | some p => .ok p
  | none =>
    match e.config.pluginPath name with
    | .error err => .error err
    | .ok path =>
      match e.files path with
      | .absent => .error (.pluginNotFound name path)
      | .unmappable => .error (.pluginUnmapped name)
      | .library lib => lib.plugin name (e.config.bindsThread name)

/-- Insert a name into names in order. -/
def insertName (name : String) (k : Nat) : List (String × Nat) → List (String × Nat)
  | [] => [(name, k)]
  | (n, j) :: rest =>
    if name < n then (name, k) :: (n, j) :: rest else (n, j) :: insertName name k rest

/-- Note a started plugin. -/
def addInstance (e : Engine σ) (name : String) (p : Plugin σ) : Engine σ :=
  { e with
    instances := e.instances ++ [{ plugin := p }]
    running := insertName name e.instances.length e.running
    pluginsLoaded := e.pluginsLoaded + 1 }

/-- Start a plugin unless it runs, and give the number of its instance. -/
def loadPlugin (e : Engine σ) (name : String) (s : σ) : Stepped σ Nat :=
  match e.running.lookup name with
  | some k => ⟨.ok k, e, s⟩
  | none =>
    match e.openPlugin name with
    | .error err => ⟨.error err, e, s⟩
    | .ok p =>
      match p.start s with
      | (.error err, s) => ⟨.error err, e, s⟩
      | (.ok (), s) => ⟨.ok e.instances.length, e.addInstance name p, s⟩

/-- Stop the plugin that runs under a name; it does so no longer, even if it fails to stop. -/
def freePlugin (e : Engine σ) (name : String) (s : σ) : Stepped σ Unit :=
  match e.instance? name with
  | none => ⟨.error (.pluginNotLoaded name), e, s⟩
  | some (_, i) =>
    let (outcome, s) := i.plugin.stop s
    ⟨outcome, { e with running := e.running.filter fun r => r.1 != name }, s⟩

/-- Stop the plugins of some names, whatever fails. -/
def freePlugins (e : Engine σ) : List String → σ → Engine σ × σ
  | [], s => (e, s)
  | name :: names, s =>
    let r := e.freePlugin name s
    r.engine.freePlugins names r.state

/-- Stop all plugins. -/
def shutdown (e : Engine σ) (s : σ) : Engine σ × σ :=
  e.freePlugins e.loadedPlugins s

/-- Start plugins, up to the first that fails. -/
def loadPlugins (e : Engine σ) : List String → σ → Stepped σ Unit
  | [], s => ⟨.ok (), e, s⟩
  | name :: names, s =>
    let r := e.loadPlugin name s
    match r.outcome with
    | .error err => ⟨.error err, r.engine, r.state⟩
    | .ok _ => r.engine.loadPlugins names r.state

/-! ## 2. Live entities -/

/-- Change the count of an instance. -/
def adjustLive (e : Engine σ) (k : Nat) (f : UInt64 → UInt64) : Engine σ :=
  { e with instances := e.instances.modify k fun i => { i with live := f i.live } }

/-- How many entities live that were resolved through the running instance of a name. -/
def live? (e : Engine σ) (name : String) : Option UInt64 :=
  (e.instance? name).map fun r => r.2.live

/-! ## 3. Call points -/

/-- Resolve an entity through a plugin, which is started if need be: the instance and the call
point. -/
def resolveEntity (e : Engine σ) (plugin module path : String) (params retvals : List TypeInfo)
    (s : σ) : Stepped σ (Nat × CallPoint) :=
  let r := e.loadPlugin plugin s
  match r.outcome with
  | .error err => ⟨.error err, r.engine, r.state⟩
  | .ok k =>
    match r.engine.instances[k]? with
    | none => ⟨.error (.pluginNotLoaded plugin), r.engine, r.state⟩
    | some i =>
      match i.plugin.loadEntity module path params retvals r.state with
      | (.error err, s) => ⟨.error err, r.engine, s⟩
      | (.ok none, s) => ⟨.error (.entityNotFound module path), r.engine, s⟩
      | (.ok (some p), s) => ⟨.ok (k, p), r.engine.adjustLive k (· + 1), s⟩

/-- Resolve an entity to a call point that the caller releases. -/
def loadCallPoint (e : Engine σ) (plugin module path : String) (params retvals : List TypeInfo)
    (s : σ) : Stepped σ CallPoint :=
  let r := e.resolveEntity plugin module path params retvals s
  ⟨r.outcome.map Prod.snd, r.engine, r.state⟩

/-- Wrap a function of a plugin's runtime as a call point that the caller releases. -/
def makeCallable (e : Engine σ) (plugin : String) (context : Nat) (params retvals : List TypeInfo)
    (s : σ) : Stepped σ (Option CallPoint) :=
  let r := e.loadPlugin plugin s
  match r.outcome with
  | .error err => ⟨.error err, r.engine, r.state⟩
  | .ok k =>
    match r.engine.instances[k]? with
    | none => ⟨.error (.pluginNotLoaded plugin), r.engine, r.state⟩
    | some i =>
      match i.plugin.makeCallable context params retvals r.state with
      | (.error err, s) => ⟨.error err, r.engine, s⟩
      | (.ok p, s) => ⟨.ok p, r.engine.adjustLive k (· + 1), s⟩

/-- One less, but not below zero. -/
def countDown (n : UInt64) : UInt64 := if n == 0 then 0 else n - 1

/-- Release a call point through the plugin that runs under a name. -/
def releaseCallPoint (e : Engine σ) (plugin : String) (p : Option CallPoint) (s : σ) :
    Stepped σ Unit :=
  match e.instance? plugin with
  | none => ⟨.error (.pluginNotLoaded plugin), e, s⟩
  | some (k, i) =>
    match i.plugin.release p s with
    | (.error err, s) => ⟨.error err, e, s⟩
    | (.ok (), s) => ⟨.ok (), e.adjustLive k countDown, s⟩

/-! ## 4. Flags -/

def setFlag (e : Engine σ) (flag : String) : Engine σ :=
  if e.flags.contains flag then e else { e with flags := flag :: e.flags }

def isFlagSet (e : Engine σ) (flag : String) : Bool :=
  e.flags.contains flag

end Engine

end RuntimeBridge
