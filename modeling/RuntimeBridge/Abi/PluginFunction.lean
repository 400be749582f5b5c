/-
# C functions of a plugin

The runtime of this process as a plugin of any engine: the functions that a plugin exports, and the
dispatchers of its call points.  A dispatcher writes into the error slot only if the call fails; all
other functions empty the slot first.
-/
import RuntimeBridge.Abi.HostFunction
namespace RuntimeBridge.Abi.PluginFunction

/-! ## 1. The runtime -/

def loadRuntime (slot : SlotArgument) (b : Bridge) : Answer Unit :=
  .ofOutcome slot (b.onHost Host.runtimePlugin.start)

def freeRuntime (slot : SlotArgument) (b : Bridge) : Answer Unit :=
  .ofOutcome slot (b.onHost Host.runtimePlugin.stop)

/-! ## 2. Call points -/

/-- A call point for a function that is registered in this process. -/
def loadEntity (module entity : TextArgument) (params retvals : SignatureArgument)
    (slot : SlotArgument) (b : Bridge) : Answer (Option CallPoint) :=
  .ofOutcome slot
    (match readEntityName module entity with
    | .error e => (.error e, b)
    | .ok (module, entity) =>
      b.onHost (Host.runtimePlugin.loadEntity module entity params.types retvals.types))

/-- A call point for a function in the objects table. -/
def makeCallable (context : Nat) (params retvals : SignatureArgument) (slot : SlotArgument)
    (b : Bridge) : Answer (Option CallPoint) :=
  .ofOutcome slot
    (b.onHost (Host.runtimePlugin.makeCallable context params.types retvals.types))

def freeXcall (p : Option CallPoint) (slot : SlotArgument) (b : Bridge) : Answer Unit :=
  .ofOutcome slot (b.onHost (Host.runtimePlugin.release p))

/-! ## 3. Dispatchers -/

/-- The context of a call point of this runtime. -/
def context? (p : CallPoint) : Option ExportContext :=
  match p.target with
  | .exported _ context => some context
  | .remote _ => none

/-- Call the dispatcher of a shape with a context and the part of a buffer that the shape needs. -/
def xcall (callFunction : FunctionCaller) (shape : CallShape) (context : Option ExportContext)
    (part : CallPart) (slot : SlotArgument) (w : World) : CallReport :=
  let r := dispatch callFunction shape context part (slot.getD none) w
  ⟨r.slot.map fun message => slot.put message, r.part, r.world⟩

end RuntimeBridge.Abi.PluginFunction
