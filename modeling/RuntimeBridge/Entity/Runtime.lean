/-
# The runtime of this process

Functions of this process are entities, too: they are registered by module and name, and resolved by
an entity path and a signature.  A function that is registered under a name in use takes its place.

Main definition: `LocalRuntime.resolve`, with its errors in the order in which they are found.
-/
import RuntimeBridge.Entity.Path
import RuntimeBridge.World.Exports
namespace RuntimeBridge

structure LocalRuntime where
  /-- Functions by module and name. -/
  functions : List ((String × String) × NativeFunction) := []
  loaded : Bool := false

/-- The name of this runtime among the plugins. -/
def localRuntimeName : String := "rust"

/-- Both parts of a signature as a text. -/
def signaturePairText (params retvals : List TypeInfo) : String :=
  signatureText params ++ " -> " ++ signatureText retvals

/-- A function, if it has the requested signature. -/
def NativeFunction.checkSignature (f : NativeFunction) (params retvals : List TypeInfo) :
    Except BridgeError NativeFunction :=
  if signaturesAgree f.params params && signaturesAgree f.retvals retvals then .ok f
  else
    .error (.signatureMismatch f.name (signaturePairText f.params f.retvals)
      (signaturePairText params retvals))

/-- The name of the entity that a path means: the value of `callable`, or else of `entity`, or the
only key if it has no value. -/
def EntityPath.entityName? (p : EntityPath) : Option String :=
  match (p.get? "callable").or (p.get? "entity") with
  | some name => if name.isEmpty then none else some name
  | none =>
    match p.items with
    | [(key, value)] => if value.isEmpty then some key else none
    | _ => none

namespace LocalRuntime

/-! ## 1. Registration -/

/-- The runtime without the function of this module and name. -/
def erase (r : LocalRuntime) (module name : String) : LocalRuntime :=
  { r with functions := r.functions.filter fun e => e.1 != (module, name) }

/-- Register a function under its name. -/
def register (r : LocalRuntime) (module : String) (f : NativeFunction) : LocalRuntime :=
  { r with functions := ((module, f.name), f) :: (r.erase module f.name).functions }

/-- The function registered under a module and a name. -/
def function? (r : LocalRuntime) (module name : String) : Option NativeFunction :=
  r.functions.lookup (module, name)

/-- Take a function out of the runtime. -/
def unregister (r : LocalRuntime) (module name : String) : Option NativeFunction × LocalRuntime :=
  (r.function? module name, r.erase module name)

/-! ## 2. Resolution -/

/-- The function that a path means in a module, if it has the requested signature. -/
def resolve (r : LocalRuntime) (env : Environment) (module path : String)
    (params retvals : List TypeInfo) : Except BridgeError NativeFunction :=
  match EntityPath.parse env path with
  | .error e => .error e
  | .ok parsed =>
    match parsed.entityName? with
    | none => .error (.invalidEntityPath ("'" ++ path ++ "' does not name a callable"))
    | some name =>
      match r.function? module name with
      | none => .error (.entityNotFound module path)
      | some f => f.checkSignature params retvals

end LocalRuntime

/-- The function registered in the objects table under an id. -/
def World.registeredFunction (w : World) (id : Nat) : Except BridgeError NativeFunction :=
  match w.objects.resolve? id with
  | none => .error (.handle (.notFound id))
  | some o =>
    match o.function? with
    | some f => .ok f
    | none =>
      .error (.invocation
        ("handle " ++ id.repr ++ " holds " ++ o.type.name ++ ", not a native function"))

end RuntimeBridge
