/-
# Plugins

A plugin makes the entities of a runtime callable: it starts and stops the runtime, resolves entities
to call points, wraps functions of the runtime as call points, and releases call points.  Any of this
may fail, and any of it may change the state of the process, whatever that is.

A plugin may be a library, a file that exports the functions of a plugin by name.  They report errors
through an error slot and take signatures as descriptors.
-/
import RuntimeBridge.Type.Descriptor
import RuntimeBridge.Call.Dispatch
namespace RuntimeBridge

/-! ## 1. Plugins -/

structure Plugin (σ : Type) where
  name : String
  /-- Entities stay on the thread that resolved them. -/
  bindsThread : Bool := false
  start : σ → Except BridgeError Unit × σ
  stop : σ → Except BridgeError Unit × σ
  /-- Resolve an entity of a module with a signature; no call point means that there is none. -/
  loadEntity : String → String → List TypeInfo → List TypeInfo → σ →
    Except BridgeError (Option CallPoint) × σ
  release : Option CallPoint → σ → Except BridgeError Unit × σ
  /-- Wrap the function that a number stands for. -/
  makeCallable : Nat → List TypeInfo → List TypeInfo → σ →
    Except BridgeError (Option CallPoint) × σ

/-- The answer of a plugin that wraps no functions. -/
def refuseCallable {σ : Type} (name : String) (s : σ) :
    Except BridgeError (Option CallPoint) × σ :=
  (.error (.symbolMissing name "make_callable"), s)

/-! ## 2. Libraries -/

/-- A function of a library that resolves or wraps something: a call point and an error slot. -/
abbrev Resolver (α σ : Type) :=
  α → List TypeDescriptor → List TypeDescriptor → σ → Option CallPoint × ErrorSlot × σ

/-- The functions that a library exports; each may be missing. -/
structure Library (σ : Type) where
  loadRuntime : Option (σ → ErrorSlot × σ)
  freeRuntime : Option (σ → ErrorSlot × σ)
  loadEntity : Option (Resolver (String × String) σ)
  freeXcall : Option (Option CallPoint → σ → ErrorSlot × σ)
  makeCallable : Option (Resolver Nat σ)

namespace Library

variable {σ : Type}

/-- Turn a set error slot into an error. -/
def checkSlot {α : Type} (error : String → BridgeError) (x : α) : ErrorSlot → Except BridgeError α
  | none => .ok x
  | some text => .error (error text)

/-- Call a function that only reports through the slot. -/
def callPlain (f : σ → ErrorSlot × σ) (error : String → BridgeError) (s : σ) :
    Except BridgeError Unit × σ :=
  let (slot, s) := f s
  (checkSlot error () slot, s)

/-- Call a function that answers with a call point; the absence of one is an error of its own. -/
def callResolver {α : Type} (f : Resolver α σ) (x : α) (params retvals : List TypeInfo)
    (error : String → BridgeError) (absent : BridgeError) (s : σ) :
    Except BridgeError (Option CallPoint) × σ :=
  match TypeDescriptor.pack params, TypeDescriptor.pack retvals with
  | .error e, _ => (.error (.marshal e), s)
  | _, .error e => (.error (.marshal e), s)
  | .ok ps, .ok rs =>
    let (point, slot, s) := f x ps rs s
    match checkSlot error point slot with
    | .error e => (.error e, s)
    | .ok none => (.error absent, s)
    | .ok (some p) => (.ok (some p), s)

/-- The error of an operation of a plugin. -/
def failed (plugin operation text : String) : BridgeError :=
  .invocation (plugin ++ ": " ++ operation ++ " failed: " ++ text)

/-- Resolve an entity; names that hold NUL cannot be passed on. -/
def resolve (name : String) (f : Resolver (String × String) σ) (module entity : String)
    (params retvals : List TypeInfo) (s : σ) : Except BridgeError (Option CallPoint) × σ :=
  if holdsNul module then
    (.error (.invalidEntityPath ("module path '" ++ module ++ "' contains NUL")), s)
  else if holdsNul entity then
    (.error (.invalidEntityPath ("entity path '" ++ entity ++ "' contains NUL")), s)
  else
    callResolver f (module, entity) params retvals (.entityResolution name module entity)
      (.entityNotFound module entity) s

/-- Wrap a function. -/
def wrap (name : String) (f : Option (Resolver Nat σ)) (context : Nat)
    (params retvals : List TypeInfo) (s : σ) : Except BridgeError (Option CallPoint) × σ :=
  match f with
  | none => refuseCallable name s
  | some f =>
    callResolver f context params retvals (failed name "make_callable")
      (.invocation (name ++ ": make_callable returned no xcall")) s

/-- What is exported, or the error of a missing export. -/
def require {α : Type} (name symbol : String) : Option α → Except BridgeError α
  | some f => .ok f
  | none => .error (.symbolMissing name symbol)

/-- The plugin of a library; all but the wrapping of functions must be exported. -/
def plugin (lib : Library σ) (name : String) (bindsThread : Bool) :
    Except BridgeError (Plugin σ) := do
  let loadRuntime ← require name "load_runtime" lib.loadRuntime
  let freeRuntime ← require name "free_runtime" lib.freeRuntime
  let loadEntity ← require name "load_entity" lib.loadEntity
  let freeXcall ← require name "free_xcall" lib.freeXcall
  return { name
           bindsThread
           start := callPlain loadRuntime (.pluginLoad name)
           stop := callPlain freeRuntime (failed name "free_runtime")
           loadEntity := resolve name loadEntity
           release := fun p => callPlain (freeXcall p) (failed name "free_xcall")
           makeCallable := wrap name lib.makeCallable }

end Library

/-- What lies at a path where a plugin is looked for. -/
inductive PluginFile (σ : Type) where
  | absent
  /-- A file that is no library. -/
  | unmappable
  | library (lib : Library σ)

end RuntimeBridge
