/-
# Sessions

A session is a scene with an engine: functions are registered in the runtime of the process, plugins
are loaded, and the entities and call points that they give are known by names.
-/
import RuntimeBridge.Scene.Functions
import RuntimeBridge.Scene.Cells
import RuntimeBridge.Sample.Library
import RuntimeBridge.Abi.PluginFunction
import RuntimeBridge.Engine.Entity
import RuntimeBridge.World.Thread
namespace RuntimeBridge

/-- A call point, unless there is none, and the shape of the signature it was made with. -/
structure ShapedPoint where
  point : Option CallPoint
  shape : CallShape

structure Session where
  engine : Engine Host := {}
  runtime : LocalRuntime := {}
  environment : Environment := {}
  entities : List (String × EntityHandle) := []
  points : List (String × ShapedPoint) := []

/-- A step of a session. -/
abbrev SessionM := StateT Session SceneM

namespace Scene

/-! ## 1. The bridge -/

/-- Do something on the bridge of the session that may stop it. -/
def tryBridge {α : Type} (f : Bridge → Outcome (α × Bridge)) : SessionM α := do
  let s ← get
  let host : Host :=
    { world := ← getWorld, runtime := s.runtime, environment := s.environment }
  let (x, b) ← orHalt (f ⟨s.engine, host⟩)
  set { s with engine := b.engine, runtime := b.host.runtime }
  setWorld b.host.world
  return x

/-- Do something on the bridge of the session. -/
def onBridge {α : Type} (f : Bridge → α × Bridge) : SessionM α :=
  tryBridge fun b => .ok (f b)

/-- Carry out an operation of the engine. -/
def onEngine {α : Type} (f : Engine Host → Host → Stepped Host α) :
    SessionM (Except BridgeError α) :=
  onBridge fun b => b.step f

/-- Carry out an operation that reports through an error slot. -/
def onAbi {α : Type} (f : Bridge → Abi.Answer α) : SessionM (Abi.Answer α) :=
  onBridge fun b => let a := f b; (a, a.bridge)

/-! ## 2. Entities -/

/-- A function with its module. -/
def readEntity (j : Json) : SceneM (String × NativeFunction) := do
  return (← textMember j "module", ← readFunction (← textMember j "name") j)

/-- The runtime with the functions under a key, the later ones in place of earlier ones. -/
def readRuntime (j : Json) (key : String) : SceneM LocalRuntime := do
  return (← listMember readEntity j key).foldl (fun r e => r.register e.1 e.2) {}

/-! ## 3. Names -/

/-- A list with another value under a name. -/
def rename {α : Type} (name : String) (x : α) (xs : List (String × α)) : List (String × α) :=
  (name, x) :: xs.filter fun e => e.1 != name

/-- The entity under a name. -/
def entityNamed (name : String) : SessionM EntityHandle := do
  orComplain "no such entity" ((← get).entities.lookup name)

/-- Release an entity and remember that. -/
def releaseEntity (name : String) : SessionM (Except BridgeError Unit) := do
  let h ← entityNamed name
  let outcome ← onEngine fun e s => h.release e s
  modify fun s => { s with entities := rename name { h with held := false } s.entities }
  return outcome

/-- Name an entity; the one that had the name before is released. -/
def nameEntity (name : String) (h : EntityHandle) : SessionM Unit := do
  if ((← get).entities.lookup name).isSome then
    let _ ← releaseEntity name
  modify fun s => { s with entities := rename name h s.entities }

def namePoint (name : String) (p : ShapedPoint) : SessionM Unit :=
  modify fun s => { s with points := rename name p s.points }

/-- The call point under a name, or none for no name. -/
def pointNamed (j : Json) (key : String) : SessionM (Option ShapedPoint) := do
  match j.member? key with
  | none => return none
  | some name =>
    return some (← orComplain "no such call point" ((← get).points.lookup (← readText name)))

/-! ## 4. Calls and buffers -/

/-- Cells that a call of an entity needs: none if it is refused. -/
def cellsNeeded (h : EntityHandle) (thread : Nat) (args : List Value) : Nat :=
  let c := h.callable
  if (h.checkThread thread).isOk && args.length == c.params.length then
    c.params.length + c.retvals.length
  else 0

/-- Call an entity on this thread, which is thread 0, or on a new one. -/
def callEntity (h : EntityHandle) (thread : Nat) (args : List Value) :
    SessionM (Outcome (List Value)) := do
  let prog ← program
  let call ← caller
  let run (w : World) : Outcome (List Value) × World :=
    match w.needCells (cellsNeeded h thread args) with
    | .ok () => h.call thread prog call args w
    | .error halt => (.error halt, w)
  onWorld (if thread = 0 then run else World.onThread run)

/-- A buffer for so many parameters and return values. -/
def newBuffer (params retvals : Nat) : SceneM CallBuffer := do
  orHalt ((← getWorld).needCells (params + retvals))
  onWorld fun w => CallBuffer.alloc params retvals w

/-- A buffer whose parameters are the cells under a key, or the panic at the first one that has no
place in it. -/
def fillBuffer (b : CallBuffer) (j : Json) (key : String) : SceneM (Outcome CallBuffer) := do
  let (outcome, params) := b.params.writeFrom 0 (← readCells j key)
  let b := { b with params }
  match outcome with
  | .ok () => return .ok b
  | .error halt =>
    setWorld (b.free (← getWorld))
    return .error halt

/-- Do something with a buffer that is freed afterwards. -/
def withBuffer {α : Type} (b : CallBuffer) (f : CallBuffer → World → α × CallBuffer × World) :
    SceneM (α × World × CallBuffer) := do
  let (x, b, w) := f b (← getWorld)
  setWorld (b.free w)
  return (x, w, b)

end Scene

end RuntimeBridge
