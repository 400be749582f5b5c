/-
# The host of plugins

Plugins act on the process that loads them: on its shared state, on the functions that are registered
in it, and with its environment.  One plugin belongs to the process itself: its entities are the
functions registered in it.  That plugin exports a function for each entity that is loaded and for each
function that is wrapped, and releases such exports.

Main definition: `Host.runtimePlugin`.
-/
import RuntimeBridge.Entity.Runtime
import RuntimeBridge.Engine.Plugin
namespace RuntimeBridge

structure Host where
  world : World := {}
  runtime : LocalRuntime := {}
  environment : Environment := {}

namespace Host

/-- Change the shared state of the process and answer something. -/
def onWorld {α : Type} (f : World → α × World) (h : Host) : α × Host :=
  let (x, world) := f h.world
  (x, { h with world })

/-! ## 1. The plugin of this process -/

/-- Note whether the runtime of this process was started. -/
def markRuntime (loaded : Bool) (h : Host) : Except BridgeError Unit × Host :=
  (.ok (), { h with runtime := { h.runtime with loaded } })

/-- Export a function, if it was found. -/
def exportFound (h : Host) :
    Except BridgeError NativeFunction → Except BridgeError (Option CallPoint) × Host
  | .error e => (.error e, h)
  | .ok f =>
    let (point, h) := h.onWorld fun w => w.exportFunction f
    (.ok (some point), h)

/-- Export the function that an entity path means. -/
def loadEntity (module path : String) (params retvals : List TypeInfo) (h : Host) :
    Except BridgeError (Option CallPoint) × Host :=
  h.exportFound (h.runtime.resolve h.environment module path params retvals)

/-- Export the function that is registered in the objects table under an id. -/
def makeCallable (id : Nat) (params retvals : List TypeInfo) (h : Host) :
    Except BridgeError (Option CallPoint) × Host :=
  h.exportFound ((h.world.registeredFunction id).bind fun f => f.checkSignature params retvals)

/-- Release an export. -/
def release (p : Option CallPoint) (h : Host) : Except BridgeError Unit × Host :=
  h.onWorld fun w => w.releaseExport p

/-- The plugin whose entities are the functions registered in this process. -/
def runtimePlugin : Plugin Host where
  name := localRuntimeName
  start := markRuntime true
  stop := markRuntime false
  loadEntity := loadEntity
  release := release
  makeCallable := makeCallable

end Host

end RuntimeBridge
