/-
# Entity handles

An entity handle is an entity that was resolved with a signature: its call point, and the instance of
the plugin that resolved it.  It is called like any foreign function, on its own thread if the plugin
asks for that, and is released through that instance once.
-/
import RuntimeBridge.Engine.Basic
import RuntimeBridge.Call.Invoke
import RuntimeBridge.Text.Quoted
namespace RuntimeBridge

structure EntityHandle where
  /-- Number of the instance that resolved the entity. -/
  origin : Nat
  pluginName : String
  module : String
  path : String
  callable : ForeignCallable
  /-- The call point is still to be released. -/
  held : Bool := true
  /-- The thread that the entity is bound to. -/
  owner : Option Nat := none
  deriving DecidableEq, Repr

namespace EntityHandle

/-! ## 1. Loading and releasing -/

variable {σ : Type}

/-- Resolve an entity on a thread. -/
def load (e : Engine σ) (thread : Nat) (plugin module path : String)
    (params retvals : List TypeInfo) (s : σ) : Stepped σ EntityHandle :=
  let r := e.resolveEntity plugin module path params retvals s
  match r.outcome with
  | .error err => ⟨.error err, r.engine, r.state⟩
  | .ok (k, point) =>
    let found := r.engine.instances[k]?
    let bound := (found.map fun i => i.plugin.bindsThread).getD false
    let handle : EntityHandle :=
      { origin := k
        pluginName := (found.map fun i => i.plugin.name).getD plugin
        module
        path
        callable := ⟨point, params, retvals⟩
        owner := if bound then some thread else none }
    ⟨.ok handle, r.engine, r.state⟩

/-- Release the entity, unless that was done. -/
def release (h : EntityHandle) (e : Engine σ) (s : σ) : Stepped σ Unit :=
  if h.held then
    let e := e.adjustLive h.origin (· - 1)
    match e.instances[h.origin]? with
    | none => ⟨.ok (), e, s⟩
    | some i =>
      let (outcome, s) := i.plugin.release (some h.callable.point) s
      ⟨outcome, e, s⟩
  else ⟨.ok (), e, s⟩

/-! ## 2. Calls -/

/-- The thread may call the entity. -/
def checkThread (h : EntityHandle) (thread : Nat) : Except BridgeError Unit :=
  match h.owner with
  | none => .ok ()
  | some owner => if owner = thread then .ok () else .error (.threadAffinity h.path)

/-- Call the entity with values. -/
def call (h : EntityHandle) (thread : Nat) (prog : Program) (callFunction : FunctionCaller)
    (args : List Value) (w : World) : Outcome (List Value) × World :=
  match h.checkThread thread with
  | .error e => (.error (.error e), w)
  | .ok () => h.callable.call prog callFunction args w

/-- Call the entity with a buffer that the caller filled. -/
def callWith (h : EntityHandle) (thread : Nat) (prog : Program) (callFunction : FunctionCaller)
    (buffer : CallBuffer) (w : World) : Invoked CallBuffer :=
  match h.checkThread thread with
  | .error e => ⟨.error (.error e), buffer, w⟩
  | .ok () => h.callable.callWith prog callFunction buffer w

/-! ## 3. Descriptions -/

/-- The description of a handle in logs. -/
def describe (h : EntityHandle) : String :=
  "EntityHandle \x7b plugin: " ++ quotedText h.pluginName ++ ", module_path: " ++
    quotedText h.module ++ ", entity_path: " ++ quotedText h.path ++ ", shape: " ++
    h.callable.shape.title ++ " \x7d"

end EntityHandle

/-- The description of a running plugin in logs. -/
def PluginInstance.describe {σ : Type} (i : PluginInstance σ) : String :=
  "LoadedPlugin \x7b name: " ++ quotedText i.plugin.name ++ ", live_entities: " ++
    i.live.toNat.repr ++ " \x7d"

end RuntimeBridge
