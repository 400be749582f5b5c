/-
# C functions of the host

What the host offers to the glue code of any language: plugins are loaded and freed, entities and
functions become call points, call points are called and released.  Each function that may fail reports
through an error slot.
-/
import RuntimeBridge.Abi.Argument
import RuntimeBridge.Call.Invoke
import RuntimeBridge.Host.Bridge
namespace RuntimeBridge.Abi

/-! ## 1. Answers -/

/-- What a function answers, if it succeeded, the error slot, and the bridge. -/
structure Answer (α : Type) where
  result : Option α
  slot : SlotArgument
  bridge : Bridge

/-- Report an outcome. -/
def Answer.ofOutcome {α : Type} (slot : SlotArgument) (r : Except BridgeError α × Bridge) :
    Answer α :=
  let reported := report r.1 slot
  ⟨reported.result, reported.slot, r.2⟩

/-- Carry out an operation of the engine if its arguments could be read. -/
def withArguments {α β : Type} (arguments : Except BridgeError β) (b : Bridge)
    (f : β → Engine Host → Host → Stepped Host α) : Except BridgeError α × Bridge :=
  match arguments with
  | .ok x => b.step (f x)
  | .error e => (.error e, b)

/-- The name of a plugin. -/
def readPluginName (name : TextArgument) : Except BridgeError String :=
  readText "runtime plugin name" name

/-- The module and the entity path. -/
def readEntityName (module entity : TextArgument) : Except BridgeError (String × String) := do
  let module ← readText "module path" module
  let entity ← readText "entity path" entity
  return (module, entity)

namespace HostFunction

/-! ## 2. Plugins -/

def loadRuntimePlugin (name : TextArgument) (slot : SlotArgument) (b : Bridge) : Answer Unit :=
  let (outcome, b) := withArguments (readPluginName name) b fun name e h => e.loadPlugin name h
  .ofOutcome slot (outcome.map fun _ => (), b)

def freeRuntimePlugin (name : TextArgument) (slot : SlotArgument) (b : Bridge) : Answer Unit :=
  .ofOutcome slot (withArguments (readPluginName name) b fun name e h => e.freePlugin name h)

/-- Free all plugins. -/
def cleanup (b : Bridge) : Bridge :=
  let (engine, host) := b.engine.shutdown b.host
  ⟨engine, host⟩

/-! ## 3. Call points -/

/-- A call point for an entity. -/
def loadEntity (plugin module entity : TextArgument) (params retvals : SignatureArgument)
    (slot : SlotArgument) (b : Bridge) : Answer CallPoint :=
  let names : Except BridgeError (String × String × String) := do
    let plugin ← readPluginName plugin
    let (module, entity) ← readEntityName module entity
    return (plugin, module, entity)
  .ofOutcome slot
    (withArguments names b fun (plugin, module, entity) e h =>
      e.loadCallPoint plugin module entity params.types retvals.types h)

/-- A call point for a function of a plugin's runtime. -/
def makeCallable (plugin : TextArgument) (context : Nat) (params retvals : SignatureArgument)
    (slot : SlotArgument) (b : Bridge) : Answer (Option CallPoint) :=
  .ofOutcome slot
    (withArguments (readPluginName plugin) b fun plugin e h =>
      e.makeCallable plugin context params.types retvals.types h)

def freeXcall (plugin : TextArgument) (p : Option CallPoint) (slot : SlotArgument) (b : Bridge) :
    Answer Unit :=
  .ofOutcome slot
    (withArguments (readPluginName plugin) b fun plugin e h => e.releaseCallPoint plugin p h)

/-! ## 4. Settings -/

/-- Apply the configuration of a document, or that of the environment if no path is given.  A panic
ends the process, for nothing may unwind into the glue code. -/
def init (path : TextArgument) (documents : String → Option String) (slot : SlotArgument)
    (b : Bridge) : Outcome (Answer Unit) :=
  let env := b.host.environment
  let config :=
    match path with
    | none => Config.ofEnvironment env documents
    | some _ => (readText "config path" path).bind fun path => Config.load env (documents path)
  match config with
  | .error e => .ok (.ofOutcome slot (.error e, b))
  | .ok c =>
    match b.init c with
    | (.ok (), b) => .ok (.ofOutcome slot (.ok (), b))
    | (.error (.error e), b) => .ok (.ofOutcome slot (.error e, b))
    | (.error halt, _) => .error halt

/-- The number that says how `init` went. -/
def initCode (a : Answer Unit) : Int :=
  if a.result.isSome then 0 else -1

/-- Set a flag; a name that cannot be read is passed over. -/
def setRuntimeFlag (name : TextArgument) (b : Bridge) : Bridge :=
  match readText "flag name" name with
  | .ok flag => { b with engine := b.engine.setFlag flag }
  | .error _ => b

/-- One if a flag is set, and zero otherwise. -/
def isRuntimeFlagSet (name : TextArgument) (b : Bridge) : Nat :=
  match readText "flag name" name with
  | .ok flag => if b.engine.isFlagSet flag then 1 else 0
  | .error _ => 0

/-- Fresh memory. -/
def allocMemory (size : Nat) : List UInt8 :=
  List.replicate size 0

end HostFunction

/-! ## 5. Calls -/

/-- What a call leaves: the error slot unless the bound on the depth was used up, the part of the
buffer, and the process. -/
structure CallReport where
  slot : Outcome SlotArgument
  part : CallPart
  world : World

/-- Call a call point with the part of a buffer that its shape needs. -/
def HostFunction.xcall (prog : Program) (callFunction : FunctionCaller) (p : Option CallPoint)
    (part : CallPart) (slot : SlotArgument) (w : World) : CallReport :=
  match p with
  | none => ⟨.ok (report (.error (.invocation "xcall is null") : Except _ Unit) slot).slot, part, w⟩
  | some p =>
    let r := p.call prog callFunction part w.pin
    ⟨reportCall r.outcome slot, r.buffer, r.world.unpin⟩

end RuntimeBridge.Abi
