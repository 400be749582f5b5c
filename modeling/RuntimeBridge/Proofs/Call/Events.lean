/-
# What happens during a call

A call constructs values on the wire and has a dispatcher answer; behind the dispatcher a function runs,
which may make calls of its own.  The events of a call tell this in order, to any depth.  They are read
off the steps of the call, in the states that the call itself goes through; what routines of other
runtimes do here meanwhile is left open (`GuestEvents`).
-/
import RuntimeBridge.Engine.Entity
import RuntimeBridge.Proofs.Value.Tree
namespace RuntimeBridge

/-! ## 1. Events -/

/-- The call points that values wrap as foreign callables. -/
def wrappedPoints (vs : List Value) : List CallPoint :=
  (Value.leavesOf vs).filterMap fun
    | .callable (.foreign c) => some c.point
    | _ => none

theorem mem_wrappedPoints {vs : List Value} {c : ForeignCallable}
    (mem : .callable (.foreign c) ∈ Value.leavesOf vs) : c.point ∈ wrappedPoints vs :=
  List.mem_filterMap.mpr ⟨_, mem, rfl⟩

inductive CallEvent where
  /-- Values are to be constructed on the wire, in this state. -/
  | sent (values : List Value) (w : World)
  /-- A dispatcher has answered, and left this in the error slot. -/
  | answered (slot : ErrorSlot)

namespace CallEvent

def isAnswer : CallEvent → Bool
  | sent _ _ => false
  | answered _ => true

/-- A dispatcher has set the error slot. -/
def isFailure : CallEvent → Bool
  | sent _ _ => false
  | answered slot => slot.isSome

/-- None of the values sent wraps a call point that belongs to a cell. -/
def Calm : CallEvent → Prop
  | sent values w => ∀ p ∈ wrappedPoints values, p.address ∉ w.cellExports
  | answered _ => True

instance : (e : CallEvent) → Decidable e.Calm
  | sent values w =>
    inferInstanceAs (Decidable (∀ p ∈ wrappedPoints values, p.address ∉ w.cellExports))
  | answered _ => inferInstanceAs (Decidable True)

end CallEvent

/-- How many dispatchers answered. -/
def dispatches (es : List CallEvent) : Nat := es.countP CallEvent.isAnswer

/-- How many dispatchers set the error slot. -/
def failures (es : List CallEvent) : Nat := es.countP CallEvent.isFailure

def Calm (es : List CallEvent) : Prop := ∀ e ∈ es, e.Calm

instance (es : List CallEvent) : Decidable (Calm es) :=
  inferInstanceAs (Decidable (∀ e ∈ es, e.Calm))

theorem calm_append {es later : List CallEvent} : Calm (es ++ later) ↔ Calm es ∧ Calm later :=
  List.forall_mem_append

/-! ## 2. Dispatchers -/

/-- What happens while a function of this runtime runs. -/
abbrev FunctionEvents := NativeFunction → List Value → World → List CallEvent

/-- What happens here while a routine of another runtime runs. -/
abbrev GuestEvents := RemoteRoutine → CallPart → World → List CallEvent

/-- While a dispatcher of this runtime answers: the function runs, and its results are sent. -/
def answerEvents (caller : FunctionCaller) (within : FunctionEvents) (context : ExportContext)
    (params retvals : Option CellArray) (w : World) : List CallEvent :=
  match (w.objects.resolve? context.handle).bind Object.function? with
  | none => []
  | some f =>
    match decodeArguments context params w with
    | (.error _, _) => []
    | (.ok args, w) =>
      within f args w ++
        match caller f args w with
        | (.error _, _) => []
        | (.ok results, w) =>
          if context.retvals > 0 && retvals.isSome then [.sent results w] else []

section Calls

variable (prog : Program) (guests : GuestEvents)

/-- What happens behind a dispatcher. -/
def CallPoint.eventsBehind (p : CallPoint) (caller : FunctionCaller) (within : FunctionEvents)
    (part : CallPart) (w : World) : List CallEvent :=
  match p.target with
  | .exported shape context =>
    answerEvents caller within context (if shape.hasParams then part.params? else none)
      (if shape.hasRetvals then part.retvals? else none) w
  | .remote routine => guests routine part w

/-- A dispatcher is called, and answers unless the bound on the depth is used up. -/
def CallPoint.events (p : CallPoint) (caller : FunctionCaller) (within : FunctionEvents)
    (part : CallPart) (w : World) : List CallEvent :=
  p.eventsBehind guests caller within part w ++
    match (p.dispatch prog caller part none w).slot with
    | .ok slot => [.answered slot]
    | .error _ => []

/-! ## 3. Calls -/

/-- The arguments are sent, and if they could be constructed, the dispatcher is called. -/
def ForeignCallable.eventsOver (c : ForeignCallable) (caller : FunctionCaller)
    (within : FunctionEvents) (args : List Value) (b : CallBuffer) (w : World) : List CallEvent :=
  let given := c.constructArguments args b w
  (if c.shape.hasParams then [.sent args w] else []) ++
    match given.outcome with
    | .error _ => []
    | .ok () =>
      c.point.events prog guests caller within (given.buffer.part c.shape) given.world.pin

/-- Nothing happens unless the arguments are as many as declared. -/
def ForeignCallable.events (c : ForeignCallable) (caller : FunctionCaller)
    (within : FunctionEvents) (args : List Value) (w : World) : List CallEvent :=
  if args.length ≠ c.params.length then []
  else c.eventsOver prog guests caller within args (c.buffer w.pin).1 (c.buffer w.pin).2

def Callable.events (c : Callable) (caller : FunctionCaller) (within : FunctionEvents)
    (args : List Value) (w : World) : List CallEvent :=
  match c with
  | .native f => within f args w
  | .foreign c => c.events prog guests caller within args w

/-- The calls of a body, one after the other. -/
def Action.events (call : Callable → List Value → World → Outcome (List Value) × World)
    (within : Callable → List Value → World → List CallEvent) (f : NativeFunction) :
    Action → World → List CallEvent
  | done _, _ | fail _, _ | panic _, _ => []
  | .call c args next, w =>
    within c args w ++
      match call c args w with
      | (.ok results, w) => events call within f (next (.ok results)) w
      | (.error (.error e), w) => events call within f (next (.error e)) w
      | (.error _, _) => []
  | pinDepth next, w => events call within f (next w.pinDepth) w
  | runs next, w => events call within f (next (w.runsOf f.identity)) w

/-- While a function runs whose calls nest down to a depth. -/
def functionEvents : Nat → FunctionEvents
  | 0, _, _, _ => []
  | depth + 1, f, args, w =>
    if args.length ≠ f.params.length then []
    else
      (prog.body f args).events
        (fun c args w => c.call prog (callFunction prog depth) args w)
        (fun c args w =>
          c.events prog guests (callFunction prog depth) (functionEvents depth) args w)
        f (w.recordRun f.identity)

/-- An entity that the thread may not call is not called. -/
def EntityHandle.events (h : EntityHandle) (thread : Nat) (caller : FunctionCaller)
    (within : FunctionEvents) (args : List Value) (w : World) : List CallEvent :=
  match h.checkThread thread with
  | .error _ => []
  | .ok () => h.callable.events prog guests caller within args w

end Calls

end RuntimeBridge
