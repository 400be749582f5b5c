/-
# Calling an exported call point

One spec for each step of a call through a call point of this runtime: the buffer is fresh, the
dispatcher sees the arrays that the shape of the function needs, and what it answers with arrives at
the caller, a failure as the text of its message (`Halt.crossed`).

Main statement: `callWith_exported`, a call with a filled buffer in terms of `answerCall` alone.
-/
import RuntimeBridge.Engine.Entity
import RuntimeBridge.Proofs.Text.Encoding
import RuntimeBridge.Proofs.World.Registered
namespace RuntimeBridge

/-! ## 1. Messages -/

/-- **A message arrives** with a blank in place of each NUL. -/
theorem slotMessage_eq (text : String) : slotMessage text = some (blankNuls text) :=
  Message.take_octets text

/-- A failure behind a dispatcher as it arrives at the caller. -/
def Halt.crossed (halt : Halt) : Halt :=
  match halt.message? with
  | some text => .error (.invocation (blankNuls text))
  | none => halt

/-! ## 2. Buffers -/

theorem CellArray.cells_init (length : Nat) (dimensions : Int) (preferCache : Bool) (w : World) :
    (init length dimensions preferCache w).1.cells = List.replicate length Cell.null := by
  simp only [init]
  repeat' split
  all_goals rfl

theorem CellArray.objects_init (length : Nat) (dimensions : Int) (preferCache : Bool) (w : World) :
    (init length dimensions preferCache w).2.objects = w.objects := by
  simp only [init]
  repeat' split
  all_goals rfl

namespace CallBuffer

theorem cells_alloc_params (params retvals : Nat) (w : World) :
    (alloc params retvals w).1.params.cells = List.replicate params Cell.null :=
  CellArray.cells_init params 1 true w

theorem cells_alloc_retvals (params retvals : Nat) (w : World) :
    (alloc params retvals w).1.retvals.cells = List.replicate retvals Cell.null :=
  CellArray.cells_init retvals 1 true _

theorem objects_alloc (params retvals : Nat) (w : World) :
    (alloc params retvals w).2.objects = w.objects :=
  (CellArray.objects_init retvals 1 true _).trans (CellArray.objects_init params 1 true w)

theorem params?_part (b : CallBuffer) (shape : CallShape) :
    (b.part shape).params? = if shape.hasParams then some b.params else none := by
  cases shape <;> rfl

theorem retvals?_part (b : CallBuffer) (shape : CallShape) :
    (b.part shape).retvals? = if shape.hasRetvals then some b.retvals else none := by
  cases shape <;> rfl

theorem withPart_withRetvals (b : CallBuffer) (shape : CallShape) (a : CellArray) :
    b.withPart ((b.part shape).withRetvals a) =
      if shape.hasRetvals then { b with retvals := a } else b := by
  cases shape <;> rfl

end CallBuffer

namespace ForeignCallable

variable (c : ForeignCallable) (w : World)

theorem cells_buffer_params :
    (c.buffer w).1.params.cells = List.replicate c.params.length Cell.null :=
  CallBuffer.cells_alloc_params _ _ _

theorem cells_buffer_retvals :
    (c.buffer w).1.retvals.cells = List.replicate c.retvals.length Cell.null :=
  CallBuffer.cells_alloc_retvals _ _ _

theorem objects_buffer : (c.buffer w).2.objects = w.objects :=
  CallBuffer.objects_alloc _ _ _

end ForeignCallable

/-! ## 3. Dispatch -/

/-- What the dispatcher of a shape answers when it is given a part of a buffer. -/
def answerPart (caller : FunctionCaller) (shape : CallShape) (context : ExportContext)
    (b : CallBuffer) (w : World) : Answered Unit :=
  answerCall caller (some context) (if shape.hasParams then some b.params else none)
    (if shape.hasRetvals then some b.retvals else none) w

/-- **The dispatcher calls the function with what it decodes**; a failure is passed on, and results are
constructed in the return values. -/
theorem answerPart_eq {shape : CallShape} {context : ExportContext} {b : CallBuffer} {w later : World}
    {f : NativeFunction} {args : List Value}
    (registered : (w.objects.resolve? context.handle).bind Object.function? = some f)
    (decoded : decodeArguments context (if shape.hasParams then some b.params else none) w =
      (.ok args, later)) (caller : FunctionCaller) :
    (∀ halt after, caller f args later = (.error halt, after) →
      answerPart caller shape context b w =
        ⟨.error halt, if shape.hasRetvals then some b.retvals else none, after⟩) ∧
    ∀ results after, caller f args later = (.ok results, after) →
      answerPart caller shape context b w = constructResults context f results
        (if shape.hasRetvals then some b.retvals else none) after := by
  unfold answerPart answerCall
  refine ⟨fun halt after ran => ?_, fun results after ran => ?_⟩
  · simp only [registered, decoded, ran]
  · simp only [registered, decoded, ran]

/-- A function with return values is called with cells for them. -/
theorem NativeFunction.hasRetvals_shape (f : NativeFunction) :
    f.shape.hasRetvals = true ↔ f.retvals ≠ [] := by
  rw [NativeFunction.shape, CallShape.hasRetvals_ofCounts, decide_eq_true_iff, List.length_pos_iff]

/-- The results are constructed in the cells, if the context counts any. -/
theorem constructResults_some {context : ExportContext} (returns : context.retvals > 0)
    (f : NativeFunction) (results : List Value) (a : CellArray) (w : World) :
    constructResults context f results (some a) w =
      let built := ValueSource.construct ⟨results, f.retvals⟩ a w
      ⟨built.1.mapError Stop.reason, some built.2.1, built.2.2⟩ := by
  rw [constructResults, if_pos returns]
  simp only
  generalize ValueSource.construct ⟨results, f.retvals⟩ a w = built
  obtain ⟨stop | done, after, later⟩ := built <;> rfl

/-- What an answer leaves in a slot. -/
def Answered.slotOver (r : Answered Unit) (slot : ErrorSlot) : Outcome ErrorSlot :=
  match r.outcome with
  | .ok () => .ok slot
  | .error halt =>
    match halt.message? with
    | some text => .ok (some (blankNuls text))
    | none => .error halt

/-- What an answer leaves of a part. -/
def Answered.partOver (r : Answered Unit) (part : CallPart) : CallPart :=
  (r.retvals.map part.withRetvals).getD part

/-- A dispatcher that is given its part of a buffer answers with the arrays of the buffer. -/
theorem dispatch_eq (caller : FunctionCaller) (shape : CallShape) (context : ExportContext)
    (b : CallBuffer) (slot : ErrorSlot) (w : World) :
    dispatch caller shape (some context) (b.part shape) slot w =
      let r := answerPart caller shape context b w
      ⟨r.slotOver slot, r.partOver (b.part shape), r.world⟩ := by
  have params : (if shape.hasParams then (b.part shape).params? else none) =
      if shape.hasParams then some b.params else none := by
    cases shape <;> rfl
  have retvals : (if shape.hasRetvals then (b.part shape).retvals? else none) =
      if shape.hasRetvals then some b.retvals else none := by
    cases shape <;> rfl
  simp only [dispatch, params, retvals, answerPart, Answered.slotOver, Answered.partOver]
  generalize answerCall caller (some context) _ _ w = r
  obtain ⟨outcome, given, after⟩ := r
  cases outcome with
  | ok => cases given <;> rfl
  | error halt =>
    simp only [slotMessage_eq]
    cases halt.message? <;> cases given <;> rfl

/-- The buffer after a call that left these return values. -/
def CallBuffer.answered (b : CallBuffer) (shape : CallShape) (retvals : Option CellArray) :
    CallBuffer :=
  match retvals with
  | some a => if shape.hasRetvals then { b with retvals := a } else b
  | none => b

/-- **A call with a filled buffer**: the callee's answer, with its failure as it arrives here. -/
theorem callWith_exported {c : ForeignCallable} {context : ExportContext}
    (target : c.point.target = .exported c.shape context) (prog : Program) (caller : FunctionCaller)
    (b : CallBuffer) (w : World) :
    let r := answerPart caller c.shape context b w.pin
    (c.callWith prog caller b w).outcome = r.outcome.mapError Halt.crossed ∧
      (c.callWith prog caller b w).buffer = b.answered c.shape r.retvals ∧
      (c.callWith prog caller b w).world.objects = r.world.objects := by
  simp only [ForeignCallable.callWith, CallPoint.call, CallPoint.dispatch, target, dispatch_eq]
  generalize answerPart caller c.shape context b w.pin = r
  obtain ⟨outcome, given, after⟩ := r
  have part : b.withPart (Answered.partOver ⟨outcome, given, after⟩ (b.part c.shape)) =
      b.answered c.shape given := by
    cases given with
    | none => exact b.withPart_part c.shape
    | some a => exact b.withPart_withRetvals c.shape a
  cases outcome with
  | ok => exact ⟨rfl, part, rfl⟩
  | error halt =>
    simp only [Answered.slotOver, Halt.crossed, Except.mapError]
    cases halt.message? with
    | none => exact ⟨rfl, part, rfl⟩
    | some text => exact ⟨rfl, part, rfl⟩

end RuntimeBridge
