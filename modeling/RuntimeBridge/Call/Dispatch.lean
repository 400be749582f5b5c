/-
# Dispatch: calls that arrive here

A dispatcher of this runtime decodes the parameters, calls the function that its context names and
constructs the results.  Nothing leaves it but a message in the error slot: errors and panics are
turned into their text there, with a blank in place of each NUL.

A dispatcher sets the slot only when it fails.  Whoever starts from an empty slot therefore knows the
outcome from the slot afterwards.
-/
import RuntimeBridge.Call.Program
import RuntimeBridge.Wire.FromValues
import RuntimeBridge.Wire.ToValues
import RuntimeBridge.Text.Message
namespace RuntimeBridge

/-- The message in an error slot; none after a success from an empty slot. -/
abbrev ErrorSlot := Option String

/-- The message of an error as its reader takes it from an error slot: through octets that end with
a zero. -/
def slotMessage (text : String) : ErrorSlot :=
  Message.take (some (Message.octets text))

/-! ## 1. Messages -/

def Panic.message : Panic → String
  | .text s => "panic: " ++ s
  | .wordless => "panic: unknown payload"

/-- The text that a failure leaves behind; using up the bound on the depth leaves none. -/
def Halt.message? : Halt → Option String
  | .error e => some e.message
  | .panic p => some p.message
  | .tooDeep => none

/-! ## 2. Inside a dispatcher -/

/-- What a dispatcher leaves: how it went, the array of return values, and the process. -/
structure Answered (α : Type) where
  outcome : Outcome α
  retvals : Option CellArray
  world : World

/-- The arguments in the parameter array; none are read for a function without parameters. -/
def decodeArguments (context : ExportContext) (params : Option CellArray) (w : World) :
    Outcome (List Value) × World :=
  match params with
  | some a =>
    if context.params > 0 then
      match w.decode a.cells a.length with
      | (.ok b, w) => (.ok b.slots, w)
      | (.error stop, w) => (.error stop.reason, w)
    else (.ok [], w)
  | none => (.ok [], w)

/-- Construct the results in the array of return values; none are written for a function without
return values. -/
def constructResults (context : ExportContext) (f : NativeFunction) (results : List Value)
    (retvals : Option CellArray) (w : World) : Answered Unit :=
  if context.retvals > 0 then
    match retvals with
    | none => ⟨.error (.error (.invocation "missing return value buffer")), none, w⟩
    | some a =>
      match ValueSource.construct ⟨results, f.retvals⟩ a w with
      | (.ok (), a, w) => ⟨.ok (), some a, w⟩
      | (.error stop, a, w) => ⟨.error stop.reason, some a, w⟩
  else ⟨.ok (), retvals, w⟩

/-- Call the function that a context names, with these arrays. -/
def answerCall (callFunction : FunctionCaller) (context : Option ExportContext)
    (params retvals : Option CellArray) (w : World) : Answered Unit :=
  match context with
  | none => ⟨.error (.error (.invocation "null callable context")), retvals, w⟩
  | some context =>
    match (w.objects.resolve? context.handle).bind Object.function? with
    | none =>
      ⟨.error (.error (.invocation
        ("callable handle " ++ context.handle.repr ++ " is no longer registered"))), retvals, w⟩
    | some f =>
      match decodeArguments context params w with
      | (.error halt, w) => ⟨.error halt, retvals, w⟩
      | (.ok args, w) =>
        match callFunction f args w with
        | (.error halt, w) => ⟨.error halt, retvals, w⟩
        | (.ok results, w) => constructResults context f results retvals w

/-! ## 3. Dispatchers -/

/-- What a call leaves: the error slot unless the bound on the depth was used up, the part of the
buffer, and the process. -/
structure Dispatched where
  slot : Outcome ErrorSlot
  part : CallPart
  world : World

/-- The dispatcher of a shape, called with a context, a part of a buffer and an error slot. -/
def dispatch (callFunction : FunctionCaller) (shape : CallShape) (context : Option ExportContext)
    (part : CallPart) (slot : ErrorSlot) (w : World) : Dispatched :=
  let params := if shape.hasParams then part.params? else none
  let retvals := if shape.hasRetvals then part.retvals? else none
  let r := answerCall callFunction context params retvals w
  let part :=
    match r.retvals with
    | some a => part.withRetvals a
    | none => part
  match r.outcome with
  | .ok () => ⟨.ok slot, part, r.world⟩
  | .error halt =>
    match halt.message? with
    | some text => ⟨.ok (slotMessage text), part, r.world⟩
    | none => ⟨.error halt, part, r.world⟩

/-- Call the dispatcher of a call point with an error slot. -/
def CallPoint.dispatch (p : CallPoint) (prog : Program) (callFunction : FunctionCaller)
    (part : CallPart) (slot : ErrorSlot) (w : World) : Dispatched :=
  match p.target with
  | .exported shape context => RuntimeBridge.dispatch callFunction shape (some context) part slot w
  | .remote routine =>
    let r := prog.remote routine part w
    ⟨.ok (r.error.or slot), r.part, r.world⟩

end RuntimeBridge
