/-
# Programs: what functions do

The body of a function answers its arguments with an action: results, an error, a panic, or a step
that asks the process for something and goes on with the answer.  A program says what the body of
each function is, and what the routines of other runtimes do with the part of the buffer that they
are given.
-/
import RuntimeBridge.Call.Part
namespace RuntimeBridge

/-! ## 1. Actions -/

inductive Action where
  | done (results : List Value)
  | fail (e : BridgeError)
  | panic (p : Panic)
  /-- Call a callable and go on with its results or its error. -/
  | call (c : Callable) (args : List Value) (next : Except BridgeError (List Value) → Action)
  /-- Ask how many round trips are under way. -/
  | pinDepth (next : Nat → Action)
  /-- Ask how often the function has run, this run included. -/
  | runs (next : Nat → Action)

namespace Action

/-- Go on with a converted value, or fail with its error. -/
def andThen {α : Type} (r : Except MarshalError α) (next : α → Action) : Action :=
  match r with
  | .ok x => next x
  | .error e => .fail (.marshal e)

/-- End with the results of a call, or with its error. -/
def finish : Except BridgeError (List Value) → Action
  | .ok results => .done results
  | .error e => .fail e

/-- Carry out an action of function `f`; `call` carries out calls. -/
def run (call : Callable → List Value → World → Outcome (List Value) × World) (f : NativeFunction) :
    Action → World → Outcome (List Value) × World
  | done results, w => (.ok results, w)
  | fail e, w => (.error (.error e), w)
  | panic p, w => (.error (.panic p), w)
  | .call c args next, w =>
    match call c args w with
    | (.ok results, w) => run call f (next (.ok results)) w
    | (.error (.error e), w) => run call f (next (.error e)) w
    | (.error halt, w) => (.error halt, w)
  | pinDepth next, w => run call f (next w.pinDepth) w
  | runs next, w => run call f (next (w.runsOf f.identity)) w

end Action

/-! ## 2. Programs -/

/-- What is left in an error slot, the part of the buffer, and the state of the process after a
routine of another runtime. -/
structure RemoteResult where
  error : Option String
  part : CallPart
  world : World

structure Program where
  body : NativeFunction → List Value → Action
  remote : RemoteRoutine → CallPart → World → RemoteResult

/-- A way to call functions of this runtime. -/
abbrev FunctionCaller := NativeFunction → List Value → World → Outcome (List Value) × World

end RuntimeBridge
