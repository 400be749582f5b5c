/-
# Invocation: calls that leave here

A call point bound to a signature is invoked with values: they are constructed in the parameters of
a fresh buffer, the dispatcher is called with the part of the buffer that the shape needs, and the
return values are decoded.  Whatever happens, the buffer is freed and the pin taken off again.

Main definition: `callFunction`, calls of functions down to a depth of nested calls.
-/
import RuntimeBridge.Call.Dispatch
namespace RuntimeBridge

/-! ## 1. One dispatch -/

/-- How a call of a dispatcher went, the part of the buffer, and the process. -/
structure Invoked (β : Type) where
  outcome : Outcome Unit
  buffer : β
  world : World

/-- Call the dispatcher of a call point with an empty error slot, and count the call. -/
def CallPoint.call (p : CallPoint) (prog : Program) (callFunction : FunctionCaller)
    (part : CallPart) (w : World) : Invoked CallPart :=
  let r := p.dispatch prog callFunction part none w
  match r.slot with
  | .error halt => ⟨.error halt, r.part, r.world⟩
  | .ok none => ⟨.ok (), r.part, r.world.recordCall false⟩
  | .ok (some text) => ⟨.error (.error (.invocation text)), r.part, r.world.recordCall true⟩

namespace ForeignCallable

def shape (c : ForeignCallable) : CallShape :=
  .ofCounts c.params.length c.retvals.length

/-- A buffer for the signature. -/
def buffer (c : ForeignCallable) (w : World) : CallBuffer × World :=
  CallBuffer.alloc c.params.length c.retvals.length w

/-- Call with a buffer that the caller filled. -/
def callWith (c : ForeignCallable) (prog : Program) (callFunction : FunctionCaller)
    (buffer : CallBuffer) (w : World) : Invoked CallBuffer :=
  let r := c.point.call prog callFunction (buffer.part c.shape) w.pin
  ⟨r.outcome, buffer.withPart r.buffer, r.world.unpin⟩

/-! ## 2. Round trips -/

/-- Construct the arguments in the parameters of a buffer. -/
def constructArguments (c : ForeignCallable) (args : List Value) (buffer : CallBuffer)
    (w : World) : Invoked CallBuffer :=
  if c.shape.hasParams then
    match ValueSource.construct ⟨args, c.params⟩ buffer.params w with
    | (.ok (), params, w) => ⟨.ok (), { buffer with params }, w⟩
    | (.error stop, params, w) => ⟨.error stop.reason, { buffer with params }, w⟩
  else ⟨.ok (), buffer, w⟩

/-- The values in the return values of a buffer. -/
def decodeResults (c : ForeignCallable) (buffer : CallBuffer) (w : World) :
    Outcome (List Value) × World :=
  if c.shape.hasRetvals then
    match w.decode buffer.retvals.cells c.retvals.length with
    | (.ok b, w) => (.ok b.slots, w)
    | (.error stop, w) => (.error stop.reason, w)
  else (.ok [], w)

/-- The round trip over a buffer: construct, call, decode. -/
def roundTrip (c : ForeignCallable) (prog : Program) (callFunction : FunctionCaller)
    (args : List Value) (buffer : CallBuffer) (w : World) :
    Outcome (List Value) × CallBuffer × World :=
  let given := c.constructArguments args buffer w
  match given.outcome with
  | .error halt => (.error halt, given.buffer, given.world)
  | .ok () =>
    let called := c.callWith prog callFunction given.buffer given.world
    match called.outcome with
    | .error halt => (.error halt, called.buffer, called.world)
    | .ok () =>
      let (results, w) := c.decodeResults called.buffer called.world
      (results, called.buffer, w)

/-- Call with values. -/
def call (c : ForeignCallable) (prog : Program) (callFunction : FunctionCaller)
    (args : List Value) (w : World) : Outcome (List Value) × World :=
  if args.length ≠ c.params.length then
    (.error (.error (.argCountMismatch c.params.length args.length)), w)
  else
    let (buffer, w) := c.buffer w.pin
    let (results, buffer, w) := c.roundTrip prog callFunction args buffer w
    (results, (buffer.free w).unpin)

end ForeignCallable

/-- Call a callable with values. -/
def Callable.call (c : Callable) (prog : Program) (callFunction : FunctionCaller)
    (args : List Value) (w : World) : Outcome (List Value) × World :=
  match c with
  | .native f => callFunction f args w
  | .foreign c => c.call prog callFunction args w

/-! ## 3. Functions -/

/-- The results of a function, if there are as many as it declares. -/
def NativeFunction.checkResults (f : NativeFunction) (results : List Value) :
    Outcome (List Value) :=
  if results.length ≠ f.retvals.length then
    .error (.error (.invocation ("'" ++ f.name ++ "' returned " ++ results.length.repr ++
      " values, expected " ++ f.retvals.length.repr)))
  else .ok results

/-- Call a function of this runtime; calls nest down to a depth. -/
def callFunction (prog : Program) : Nat → FunctionCaller
  | 0, _, _, w => (.error .tooDeep, w)
  | depth + 1, f, args, w =>
    if args.length ≠ f.params.length then
      (.error (.error (.argCountMismatch f.params.length args.length)), w)
    else
      let call c args w := Callable.call c prog (callFunction prog depth) args w
      match (prog.body f args).run call f (w.recordRun f.identity) with
      | (.ok results, w) => (f.checkResults results, w)
      | (.error halt, w) => (.error halt, w)

end RuntimeBridge
