/-
# The bridge of a process

An engine and the process that it acts on.  The engine of a process is made when it is first needed,
with the configuration that the environment tells; a configuration that cannot be read does not count.

Main definitions: `Bridge.ofEnvironment`, and `Bridge.init`, which applies another configuration.
-/
import RuntimeBridge.Host.Basic
import RuntimeBridge.Engine.Basic
namespace RuntimeBridge

structure Bridge where
  engine : Engine Host
  host : Host

namespace Bridge

/-- The bridge of a process: its files, and what the plugins lie in. -/
def ofEnvironment (documents : String → Option String) (files : String → PluginFile Host)
    (host : Host) : Bridge :=
  let config :=
    match Config.ofEnvironment host.environment documents with
    | .ok c => c
    | .error _ => {}
  { engine := { config, builtins := [(localRuntimeName, Host.runtimePlugin)], files }
    host }

/-- Carry out an operation of the engine. -/
def step {α : Type} (b : Bridge) (f : Engine Host → Host → Stepped Host α) :
    Except BridgeError α × Bridge :=
  let r := f b.engine b.host
  (r.outcome, ⟨r.engine, r.state⟩)

/-- Apply a configuration: the sizes of caches and samples, the flags, and the plugins to start with,
up to the first that fails.  A cache that no memory can hold is a panic, and nothing else is applied. -/
def init (b : Bridge) (c : Config) : Outcome Unit × Bridge :=
  match b.host.world.setCacheCapacity c.cacheCells with
  | (.error halt, world) => (.error halt, { b with host := { b.host with world } })
  | (.ok (), world) =>
    let world := world.setHandleSamples c.handleSamples
    let e := c.flags.foldl Engine.setFlag { b.engine with config := c }
    let r := e.loadPlugins c.preload { b.host with world }
    (r.outcome.mapError Halt.error, ⟨r.engine, r.state⟩)

/-- Carry out an operation on the process alone. -/
def onHost {α : Type} (b : Bridge) (f : Host → α × Host) : α × Bridge :=
  let (x, host) := f b.host
  (x, { b with host })

end Bridge

end RuntimeBridge
