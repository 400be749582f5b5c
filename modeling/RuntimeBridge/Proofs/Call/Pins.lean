/-
# Calls that do not ask for the pins

A call sees how many round trips are under way only if a function asks, or a routine of another runtime
looks.  Dispatching, calling out and nesting calls add nothing to that: a program none of whose parts
asks gives the same whatever the pins are.

Main statements: `answerCall_sameButPins`, one call that arrives here, and
`ignoresPins_callFunction`, all calls of a program that does not ask.
-/
import RuntimeBridge.Call.Invoke
import RuntimeBridge.Proofs.Wire.Pins
namespace RuntimeBridge

open World (SameButPins PinBlind)

variable {w w' : World}

/-! ## 1. Calls that arrive here -/

/-- A function answers the same whatever the pins are, and leaves states that differ in them only. -/
def IgnoresPins (caller : FunctionCaller) (f : NativeFunction) : Prop :=
  ∀ args, PinBlind (caller f args)

/-- The same outcome, the same return values, and states that are the same but for the pins. -/
structure Answered.Alike {α : Type} (r r' : Answered α) : Prop where
  outcome : r.outcome = r'.outcome
  retvals : r.retvals = r'.retvals
  worlds : r.world.SameButPins r'.world

theorem pinBlind_decodeArguments (context : ExportContext) (params : Option CellArray) :
    PinBlind (decodeArguments context params) := by
  intro w w' same
  cases params with
  | none => exact ⟨rfl, same⟩
  | some a =>
    obtain ⟨decoded, v, v', here, here', same'⟩ :=
      (World.pinBlind_decode a.cells a.length same).shared
    simp only [decodeArguments, here, here']
    split
    · cases decoded with
      | ok b => exact ⟨rfl, same'⟩
      | error stop => exact ⟨rfl, same'⟩
    · exact ⟨rfl, same⟩

theorem constructResults_sameButPins (same : w.SameButPins w') (context : ExportContext)
    (f : NativeFunction) (results : List Value) (retvals : Option CellArray) :
    (constructResults context f results retvals w).Alike
      (constructResults context f results retvals w') := by
  unfold constructResults
  split
  · cases retvals with
    | none => exact ⟨rfl, rfl, same⟩
    | some a =>
      obtain ⟨outcome, built, v, v', here, here', same⟩ :=
        World.construct_sameButPins ⟨results, f.retvals⟩ a same
      simp only [here, here']
      cases outcome with
      | ok => exact ⟨rfl, rfl, same⟩
      | error stop => exact ⟨rfl, rfl, same⟩
  · exact ⟨rfl, rfl, same⟩

/-- **A call that arrives here** sees the pins only through the function that it names. -/
theorem answerCall_sameButPins (same : w.SameButPins w') {caller : FunctionCaller}
    (context : ExportContext) (params retvals : Option CellArray)
    (ignores : ∀ f, (w.objects.resolve? context.handle).bind Object.function? = some f →
      IgnoresPins caller f) :
    (answerCall caller (some context) params retvals w).Alike
      (answerCall caller (some context) params retvals w') := by
  have objects : w'.objects = w.objects := by
    obtain ⟨pins, rfl⟩ := same
    rfl
  simp only [answerCall, objects]
  cases found : (w.objects.resolve? context.handle).bind Object.function? with
  | none => exact ⟨rfl, rfl, same⟩
  | some f =>
    obtain ⟨args, v, v', decoded, decoded', same⟩ :=
      (pinBlind_decodeArguments context params same).shared
    simp only [decoded, decoded']
    cases args with
    | error halt => exact ⟨rfl, rfl, same⟩
    | ok args =>
      obtain ⟨results, u, u', ran, ran', same⟩ := (ignores f found args same).shared
      simp only [ran, ran']
      cases results with
      | error halt => exact ⟨rfl, rfl, same⟩
      | ok results => exact constructResults_sameButPins same context f results retvals

/-- The same message, the same part of the buffer, and states that are the same but for the pins. -/
structure Dispatched.Alike (r r' : Dispatched) : Prop where
  slot : r.slot = r'.slot
  part : r.part = r'.part
  worlds : r.world.SameButPins r'.world

/-- **A dispatcher** of this runtime sees the pins only through the function that it calls. -/
theorem dispatch_sameButPins (same : w.SameButPins w') {caller : FunctionCaller}
    (context : ExportContext)
    (ignores : ∀ f, (w.objects.resolve? context.handle).bind Object.function? = some f →
      IgnoresPins caller f) (shape : CallShape) (part : CallPart) (slot : ErrorSlot) :
    (dispatch caller shape (some context) part slot w).Alike
      (dispatch caller shape (some context) part slot w') := by
  have answered := answerCall_sameButPins same context
    (if shape.hasParams then part.params? else none)
    (if shape.hasRetvals then part.retvals? else none) ignores
  simp only [dispatch, ← answered.outcome, ← answered.retvals]
  cases (answerCall caller (some context) _ _ w).outcome with
  | ok => exact ⟨rfl, rfl, answered.worlds⟩
  | error halt =>
    simp only
    cases halt.message? with
    | none => exact ⟨rfl, rfl, answered.worlds⟩
    | some text => exact ⟨rfl, rfl, answered.worlds⟩

/-! ## 2. Calls that leave here -/

/-- The same outcome, the same buffer, and states that are the same but for the pins. -/
structure Invoked.Alike {β : Type} (r r' : Invoked β) : Prop where
  outcome : r.outcome = r'.outcome
  buffer : r.buffer = r'.buffer
  worlds : r.world.SameButPins r'.world

/-- No step of the action asks for the pins. -/
def Action.Unasking : Action → Prop
  | .done _ | .fail _ | .panic _ => True
  | .call _ _ next => ∀ r, (next r).Unasking
  | .pinDepth _ => False
  | .runs next => ∀ n, (next n).Unasking

/-- No body asks for the pins, and no routine of another runtime looks at them. -/
structure Program.Unasking (prog : Program) : Prop where
  bodies : ∀ f args, (prog.body f args).Unasking
  routines : ∀ routine part {w w' : World}, w.SameButPins w' →
    (prog.remote routine part w).error = (prog.remote routine part w').error ∧
      (prog.remote routine part w).part = (prog.remote routine part w').part ∧
      (prog.remote routine part w).world.SameButPins (prog.remote routine part w').world

section Calls

variable {prog : Program} {caller : FunctionCaller}

theorem CallPoint.dispatch_sameButPins (unasking : prog.Unasking)
    (ignores : ∀ f, IgnoresPins caller f) (p : CallPoint) (part : CallPart) (slot : ErrorSlot)
    (same : w.SameButPins w') :
    (p.dispatch prog caller part slot w).Alike (p.dispatch prog caller part slot w') := by
  unfold CallPoint.dispatch
  cases p.target with
  | exported shape context =>
    exact RuntimeBridge.dispatch_sameButPins same context (fun f _ => ignores f) shape part slot
  | remote routine =>
    obtain ⟨error, left, worlds⟩ := unasking.routines routine part same
    refine ⟨?_, left, worlds⟩
    simp only [error]

theorem CallPoint.call_sameButPins (unasking : prog.Unasking) (ignores : ∀ f, IgnoresPins caller f)
    (p : CallPoint) (part : CallPart) (same : w.SameButPins w') :
    (p.call prog caller part w).Alike (p.call prog caller part w') := by
  have dispatched := p.dispatch_sameButPins unasking ignores part none same
  simp only [CallPoint.call, ← dispatched.slot, ← dispatched.part]
  rcases (p.dispatch prog caller part none w).slot with halt | _ | text
  · exact ⟨rfl, rfl, dispatched.worlds⟩
  · exact ⟨rfl, rfl, dispatched.worlds.recordCall false⟩
  · exact ⟨rfl, rfl, dispatched.worlds.recordCall true⟩

namespace ForeignCallable

variable (c : ForeignCallable)

theorem callWith_sameButPins (unasking : prog.Unasking) (ignores : ∀ f, IgnoresPins caller f)
    (b : CallBuffer) (same : w.SameButPins w') :
    (c.callWith prog caller b w).Alike (c.callWith prog caller b w') := by
  have called := c.point.call_sameButPins unasking ignores (b.part c.shape) same.pin
  exact ⟨called.outcome, congrArg b.withPart called.buffer, called.worlds.unpin⟩

theorem constructArguments_sameButPins (args : List Value) (b : CallBuffer)
    (same : w.SameButPins w') :
    (c.constructArguments args b w).Alike (c.constructArguments args b w') := by
  unfold constructArguments
  split
  · obtain ⟨outcome, built, v, v', here, here', same⟩ :=
      World.construct_sameButPins ⟨args, c.params⟩ b.params same
    simp only [here, here']
    cases outcome with
    | ok => exact ⟨rfl, rfl, same⟩
    | error stop => exact ⟨rfl, rfl, same⟩
  · exact ⟨rfl, rfl, same⟩

theorem pinBlind_decodeResults (b : CallBuffer) : PinBlind (c.decodeResults b) := by
  intro w w' same
  unfold decodeResults
  split
  · obtain ⟨decoded, v, v', here, here', same⟩ :=
      (World.pinBlind_decode b.retvals.cells c.retvals.length same).shared
    simp only [here, here']
    cases decoded with
    | ok b => exact ⟨rfl, same⟩
    | error stop => exact ⟨rfl, same⟩
  · exact ⟨rfl, same⟩

theorem roundTrip_sameButPins (unasking : prog.Unasking) (ignores : ∀ f, IgnoresPins caller f)
    (args : List Value) (b : CallBuffer) (same : w.SameButPins w') :
    ∃ outcome left later later', c.roundTrip prog caller args b w = (outcome, left, later) ∧
      c.roundTrip prog caller args b w' = (outcome, left, later') ∧ later.SameButPins later' := by
  have given := c.constructArguments_sameButPins args b same
  have called := c.callWith_sameButPins unasking ignores (c.constructArguments args b w).buffer
    given.worlds
  have results := c.pinBlind_decodeResults
    (c.callWith prog caller (c.constructArguments args b w).buffer
      (c.constructArguments args b w).world).buffer called.worlds
  simp only [roundTrip, ← given.outcome, ← given.buffer]
  cases (c.constructArguments args b w).outcome with
  | error halt => exact ⟨_, _, _, _, rfl, rfl, given.worlds⟩
  | ok =>
    simp only [← called.outcome, ← called.buffer]
    cases (c.callWith prog caller _ (c.constructArguments args b w).world).outcome with
    | error halt => exact ⟨_, _, _, _, rfl, rfl, called.worlds⟩
    | ok =>
      refine ⟨_, _, _, _, rfl, ?_, results.states⟩
      simp only [← results.answer]

theorem pinBlind_call (unasking : prog.Unasking) (ignores : ∀ f, IgnoresPins caller f)
    (args : List Value) : PinBlind (c.call prog caller args) := by
  intro w w' same
  simp only [call]
  split
  · exact ⟨rfl, same⟩
  · obtain ⟨b, v, v', made, made', same⟩ :=
      (World.pinBlind_alloc c.params.length c.retvals.length same.pin).shared
    obtain ⟨results, left, u, u', here, here', same⟩ :=
      c.roundTrip_sameButPins unasking ignores args b same
    simp only [buffer, made, made', here, here']
    exact ⟨rfl, (same.freeBuffer left).unpin⟩

end ForeignCallable

theorem Action.pinBlind_run {call : Callable → List Value → World → Outcome (List Value) × World}
    (calls : ∀ c args, PinBlind (call c args)) (f : NativeFunction) {action : Action}
    (unasking : action.Unasking) : PinBlind (action.run call f) := by
  induction action with
  | done results => exact fun w w' same => ⟨rfl, same⟩
  | fail e => exact fun w w' same => ⟨rfl, same⟩
  | panic p => exact fun w w' same => ⟨rfl, same⟩
  | call c args next ih =>
    intro w w' same
    obtain ⟨answer, v, v', called, called', same⟩ := (calls c args same).shared
    simp only [Action.run, called, called']
    rcases answer with (e | p | _) | results
    · exact ih _ (unasking _) same
    · exact ⟨rfl, same⟩
    · exact ⟨rfl, same⟩
    · exact ih _ (unasking _) same
  | pinDepth next ih => exact unasking.elim
  | runs next ih =>
    intro w w' same
    have runs : w'.runsOf f.identity = w.runsOf f.identity := by
      obtain ⟨pins, rfl⟩ := same
      rfl
    simp only [Action.run, runs]
    exact ih _ (unasking _) same

end Calls

/-- **Calls of a program that does not ask** for the pins. -/
theorem ignoresPins_callFunction {prog : Program} (unasking : prog.Unasking) (depth : Nat)
    (f : NativeFunction) : IgnoresPins (callFunction prog depth) f := by
  induction depth generalizing f with
  | zero => exact fun args w w' same => ⟨rfl, same⟩
  | succ depth ih =>
    intro args w w' same
    have calls : ∀ (c : Callable) args, PinBlind (c.call prog (callFunction prog depth) args) := by
      intro c args
      cases c with
      | native f => exact ih f args
      | foreign c => exact c.pinBlind_call unasking ih args
    simp only [callFunction]
    split
    · exact ⟨rfl, same⟩
    · obtain ⟨results, v, v', ran, ran', same⟩ :=
        (Action.pinBlind_run calls f (unasking.bodies f args) (same.recordRun f.identity)).shared
      simp only [ran, ran']
      cases results with
      | ok results => exact ⟨rfl, same⟩
      | error halt => exact ⟨rfl, same⟩

end RuntimeBridge
