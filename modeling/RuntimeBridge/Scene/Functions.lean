/-
# Functions in scenes

The functions of a scene are described by name: a function of this runtime with a sample body, one
of them exported and called as if it were foreign, or a routine of another runtime.
-/
import RuntimeBridge.Scene.Values
namespace RuntimeBridge.Scene

/-! ## 1. Bodies -/

def readNative (j : Json) : SceneM NativeType := do
  orComplain "unknown native type" (NativeType.parse? (← readText j))

def readBody (j : Json) : SceneM SampleBody := do
  match ← readText (← member j "b") with
  | "add" => return .add
  | "div" => return .div
  | "sum" => return .sum
  | "echo" => return .echo
  | "rev" => return .reverse
  | "pack" => return .pack
  | "ret" => return .give (← readValues j "values")
  | "raise" => return .raise (← readError (← member j "err"))
  | "panic" => return .panic (.text (← textMember j "text"))
  | "panic_static" => return .panic (.text "boom")
  | "panic_any" => return .panic .wordless
  | "apply" => return .apply
  | "twice" => return .twice
  | "pin" => return .pinDepth
  | "count" => return .count
  | "tick" => return .tick
  | "types" => return .types
  | "into" => return .convert (← listMember readNative j "to")
  | b => complain ("unknown body " ++ b)

/-! ## 2. Functions -/

/-- A new function without body. -/
def newFunction (name : String) (j : Json) : SceneM NativeFunction := do
  let params ← readTypes j "params"
  let retvals ← readTypes j "retvals"
  let identity ← onWorld World.fresh
  return { identity, name, params, retvals }

/-- Give a function its body. -/
def addBody (f : NativeFunction) (body : SampleBody) : SceneM Unit :=
  modify fun s => { s with table := (f.identity, body) :: s.table }

/-- A new function with its body. -/
def readFunction (name : String) (j : Json) : SceneM NativeFunction := do
  let f ← newFunction name j
  addBody f (← readBody (← member j "body"))
  return f

def nameCallable (name : String) (c : Callable) : SceneM Unit :=
  modify fun s => { s with functions := s.functions ++ [(name, c)] }

/-- Name a function that another runtime calls or answers. -/
def readForeignFunction (name : String) (j : Json) : SceneM Unit := do
  let params ← readTypes j "params"
  let retvals ← readTypes j "retvals"
  match j.member? "of", j.member? "foreign" with
  | some g, _ =>
    match ← readCallable g with
    | .native g =>
      let point ← onWorld fun w => w.exportFunction g
      nameCallable name (.foreign ⟨point, params, retvals⟩)
    | .foreign _ => complain "only functions of this runtime are exported"
  | none, some mode =>
    let shape := CallShape.ofCounts params.length retvals.length
    let routine :=
      if mode.text? == some "ok" then SampleRoutine.accepting shape else SampleRoutine.failing shape
    let point ← onWorld fun w => w.placePoint (.remote routine)
    nameCallable name (.foreign ⟨point, params, retvals⟩)
  | none, none => pure ()

/-- Read all functions: those of this runtime first, then those made from them, and the bodies last,
which may pass any function. -/
def readFunctions (j : Json) : SceneM Unit := do
  let functions := (← pairsMember j "fns").mergeSort fun a b => decide (a.1 ≤ b.1)
  for (name, f) in functions do
    if (f.member? "body").isSome then nameCallable name (.native (← newFunction name f))
  for (name, f) in functions do
    if (f.member? "body").isNone then readForeignFunction name f
  for (name, f) in functions do
    if let some body := f.member? "body" then
      if let .native g ← readCallable (.str name) then addBody g (← readBody body)

end RuntimeBridge.Scene
