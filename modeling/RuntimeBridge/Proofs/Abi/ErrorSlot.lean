/-
# The error slot

Every C function that may fail reports through an error slot of its caller: it leaves the slot empty if
it succeeds, and puts a message into it if it fails.  This file follows one slot through any sequence of
calls of such functions, of the host and of the runtime of this process as a plugin.  The caller frees
each message it finds, but leaves the slot as it is: what the slot leads to then may read as anything.

All functions but the dispatchers empty the slot before they report.  A dispatcher leaves the slot alone
when it succeeds.  So a caller learns the truth from the slot unless a dispatcher succeeds right after
another call has failed; then the freed message is still there.

Main statement: `slot_truthful_iff`, over whole sequences.
-/
import RuntimeBridge.Abi.PluginFunction
import RuntimeBridge.Proofs.Call.Exported
import RuntimeBridge.Proofs.Call.Transparency
import Mathlib.Data.List.Chain
namespace RuntimeBridge.Abi

variable {prog : Program} {caller : FunctionCaller} {leftover : String → String}

/-! ## 1. Calls that may fail -/

/-- A call of a C function that may fail: of the host, or of the runtime of this process. -/
inductive EntryCall where
  | hostLoadPlugin (name : TextArgument)
  | hostFreePlugin (name : TextArgument)
  | hostLoadEntity (plugin module entity : TextArgument) (params retvals : SignatureArgument)
  | hostMakeCallable (plugin : TextArgument) (context : Nat) (params retvals : SignatureArgument)
  | hostFreeXcall (plugin : TextArgument) (p : Option CallPoint)
  | hostXcall (p : Option CallPoint) (part : CallPart)
  | loadRuntime
  | freeRuntime
  | loadEntity (module entity : TextArgument) (params retvals : SignatureArgument)
  | makeCallable (context : Nat) (params retvals : SignatureArgument)
  | freeXcall (p : Option CallPoint)
  | xcall (shape : CallShape) (context : Option ExportContext) (part : CallPart)

/-- What a call leaves: the slot, if the call returns, and the bridge. -/
structure Replied where
  slot : Outcome SlotArgument
  bridge : Bridge

def Answer.replied {α : Type} (a : Answer α) : Replied :=
  ⟨.ok a.slot, a.bridge⟩

def CallReport.replied (r : CallReport) (b : Bridge) : Replied :=
  ⟨r.slot, { b with host := { b.host with world := r.world } }⟩

/-- How an operation ended that returns in any case. -/
def ended {α : Type} (r : Except BridgeError α) : Outcome Unit :=
  (r.map fun _ => ()).mapError .error

namespace EntryCall

/-- Carry out a call with a slot. -/
def reply (prog : Program) (caller : FunctionCaller) (slot : SlotArgument) (b : Bridge) :
    EntryCall → Replied
  | hostLoadPlugin name => (HostFunction.loadRuntimePlugin name slot b).replied
  | hostFreePlugin name => (HostFunction.freeRuntimePlugin name slot b).replied
  | hostLoadEntity plugin module entity params retvals =>
    (HostFunction.loadEntity plugin module entity params retvals slot b).replied
  | hostMakeCallable plugin context params retvals =>
    (HostFunction.makeCallable plugin context params retvals slot b).replied
  | hostFreeXcall plugin p => (HostFunction.freeXcall plugin p slot b).replied
  | hostXcall p part => (HostFunction.xcall prog caller p part slot b.host.world).replied b
  | loadRuntime => (PluginFunction.loadRuntime slot b).replied
  | freeRuntime => (PluginFunction.freeRuntime slot b).replied
  | loadEntity module entity params retvals =>
    (PluginFunction.loadEntity module entity params retvals slot b).replied
  | makeCallable context params retvals =>
    (PluginFunction.makeCallable context params retvals slot b).replied
  | freeXcall p => (PluginFunction.freeXcall p slot b).replied
  | xcall shape context part =>
    (PluginFunction.xcall caller shape context part slot b.host.world).replied b

/-- How a call ends, whatever is reported of it. -/
def outcome (prog : Program) (caller : FunctionCaller) (b : Bridge) : EntryCall → Outcome Unit
  | hostLoadPlugin name =>
    ended (withArguments (readPluginName name) b fun name e h => e.loadPlugin name h).1
  | hostFreePlugin name =>
    ended (withArguments (readPluginName name) b fun name e h => e.freePlugin name h).1
  | hostLoadEntity plugin module entity params retvals =>
    let names : Except BridgeError (String × String × String) := do
      let plugin ← readPluginName plugin
      let (module, entity) ← readEntityName module entity
      return (plugin, module, entity)
    ended (withArguments names b fun (plugin, module, entity) e h =>
      e.loadCallPoint plugin module entity params.types retvals.types h).1
  | hostMakeCallable plugin context params retvals =>
    ended (withArguments (readPluginName plugin) b fun plugin e h =>
      e.makeCallable plugin context params.types retvals.types h).1
  | hostFreeXcall plugin p =>
    ended (withArguments (readPluginName plugin) b fun plugin e h => e.releaseCallPoint plugin p h).1
  | hostXcall none _ => .error (.error (.invocation "xcall is null"))
  | hostXcall (some p) part => (p.call prog caller part b.host.world.pin).outcome
  | loadRuntime => ended (Host.runtimePlugin.start b.host).1
  | freeRuntime => ended (Host.runtimePlugin.stop b.host).1
  | loadEntity module entity params retvals =>
    ended ((readEntityName module entity).bind fun (module, entity) =>
      (Host.runtimePlugin.loadEntity module entity params.types retvals.types b.host).1)
  | makeCallable context params retvals =>
    ended (Host.runtimePlugin.makeCallable context params.types retvals.types b.host).1
  | freeXcall p => ended (Host.runtimePlugin.release p b.host).1
  | xcall shape context part =>
    (answerCall caller context (if shape.hasParams then part.params? else none)
      (if shape.hasRetvals then part.retvals? else none) b.host.world).outcome

/-- The call is that of a dispatcher. -/
def isDispatch : EntryCall → Bool
  | xcall _ _ _ => true
  | _ => false

end EntryCall

/-! ## 2. One slot for many calls -/

/-- A call that returned: its own error, and the slot after it. -/
structure Returned where
  isDispatch : Bool
  error : Option String
  slot : ErrorSlot
  deriving DecidableEq, Repr

/-- The slot says how the call went. -/
def Returned.Truthful (r : Returned) : Prop :=
  r.slot = r.error.map blankNuls

/-- The text of the error that a call ended with. -/
def errorOf : Outcome Unit → Option String
  | .ok () => none
  | .error halt => halt.message?

/-- Calls one after the other with one slot, up to the first that does not return.  In between the
caller frees the message in the slot, so that it reads as whatever is left there. -/
def session (prog : Program) (caller : FunctionCaller) (leftover : String → String) :
    List EntryCall → ErrorSlot → Bridge → List Returned
  | [], _, _ => []
  | c :: cs, before, b =>
    let r := c.reply prog caller (some before) b
    match r.slot with
    | .error _ => []
    | .ok slot =>
      ⟨c.isDispatch, errorOf (c.outcome prog caller b), slot.join⟩ ::
        session prog caller leftover cs (slot.join.map leftover) r.bridge

/-- No dispatcher succeeds right after a call that failed. -/
def Returned.Follows (a b : Returned) : Prop :=
  a.error.isSome → b.isDispatch → b.error.isSome

/-! ## 3. One call -/

/-- The slot after a call that ended in some way, with something in the slot before. -/
def slotAfter (isDispatch : Bool) (before : ErrorSlot) (outcome : Outcome Unit) :
    Outcome SlotArgument :=
  match outcome with
  | .ok () => .ok (some (if isDispatch then before else none))
  | .error halt =>
    match halt.message? with
    | some text => .ok (some (some (blankNuls text)))
    | none => .error halt

theorem slotAfter_error (isDispatch : Bool) (before : ErrorSlot) {halt : Halt} {text : String}
    (message : halt.message? = some text) :
    slotAfter isDispatch before (.error halt) = .ok (some (slotMessage text)) := by
  simp [slotAfter, message, slotMessage_eq]

theorem slotAfter_tooDeep (isDispatch : Bool) (before : ErrorSlot) {halt : Halt}
    (silent : halt.message? = none) : slotAfter isDispatch before (.error halt) = .error halt := by
  simp [slotAfter, silent]

theorem ended_map {α β : Type} (r : Except BridgeError α) (f : α → β) : ended (r.map f) = ended r := by
  cases r <;> rfl

theorem replied_ofOutcome {α : Type} (before : ErrorSlot) (r : Except BridgeError α × Bridge) :
    (Answer.ofOutcome (some before) r).replied.slot = slotAfter false before (ended r.1) := by
  obtain ⟨outcome, b⟩ := r
  cases outcome with
  | ok x => rfl
  | error e =>
    have message : (Halt.error e).message? = some e.message := rfl
    exact (slotAfter_error false before message).symm

theorem reportCall_eq (before : ErrorSlot) (outcome : Outcome Unit) :
    reportCall outcome (some before) = slotAfter false before outcome := by
  cases outcome with
  | ok u => rfl
  | error halt =>
    cases message : halt.message? with
    | none => simp [reportCall, message, slotAfter_tooDeep]
    | some text => simp [reportCall, message, slotAfter_error, SlotArgument.put]

theorem dispatch_slot (shape : CallShape) (context : Option ExportContext) (part : CallPart)
    (before : ErrorSlot) (w : World) :
    (PluginFunction.xcall caller shape context part (some before) w).slot =
      slotAfter true before
        (answerCall caller context (if shape.hasParams then part.params? else none)
          (if shape.hasRetvals then part.retvals? else none) w).outcome := by
  simp only [PluginFunction.xcall, dispatch, Option.getD_some]
  cases (answerCall caller context _ _ w).outcome with
  | ok u => rfl
  | error halt =>
    cases message : halt.message? with
    | none => simp [slotAfter_tooDeep, message, Except.map]
    | some text => simp [slotAfter_error, message, Except.map, SlotArgument.put]

/-- **One call.**  If it fails, the slot receives its own message, whatever was there.  If it succeeds,
the slot is emptied, but a dispatcher leaves it alone. -/
theorem reply_slot (c : EntryCall) (before : ErrorSlot) (b : Bridge) :
    (c.reply prog caller (some before) b).slot =
      slotAfter c.isDispatch before (c.outcome prog caller b) := by
  cases c with
  | hostLoadPlugin name =>
    refine (replied_ofOutcome before _).trans ?_
    exact congrArg (slotAfter false before) (ended_map _ _)
  | hostFreePlugin name => exact replied_ofOutcome before _
  | hostLoadEntity plugin module entity params retvals => exact replied_ofOutcome before _
  | hostMakeCallable plugin context params retvals => exact replied_ofOutcome before _
  | hostFreeXcall plugin p => exact replied_ofOutcome before _
  | hostXcall p part =>
    cases p with
    | none => rfl
    | some p => exact reportCall_eq before _
  | loadRuntime => exact replied_ofOutcome before _
  | freeRuntime => exact replied_ofOutcome before _
  | loadEntity module entity params retvals =>
    refine (replied_ofOutcome before _).trans ?_
    simp only [EntryCall.outcome]
    cases readEntityName module entity <;> rfl
  | makeCallable context params retvals => exact replied_ofOutcome before _
  | freeXcall p => exact replied_ofOutcome before _
  | xcall shape context part => exact dispatch_slot shape context part before b.host.world

/-! ## 4. Sequences of calls -/

/-- A call that ends in some way leaves a slot unless it does not return; the slot is truthful unless a
dispatcher succeeds while a message is left in it. -/
theorem slotAfter_cases (isDispatch : Bool) (before : ErrorSlot) (outcome : Outcome Unit) :
    (∃ halt, slotAfter isDispatch before outcome = .error halt) ∨
      ∃ slot, slotAfter isDispatch before outcome = .ok (some slot) ∧
        (slot = (errorOf outcome).map blankNuls ↔
          (before.isSome → isDispatch → (errorOf outcome).isSome)) := by
  cases outcome with
  | ok u =>
    refine .inr ⟨_, rfl, ?_⟩
    cases isDispatch <;> cases before <;> simp [errorOf]
  | error halt =>
    cases message : halt.message? with
    | none => exact .inl ⟨halt, slotAfter_tooDeep _ _ message⟩
    | some text =>
      refine .inr ⟨_, slotAfter_error _ _ message, ?_⟩
      simp [errorOf, message, slotMessage_eq]

/-- With something in the slot before, all calls are told of truthfully just when no dispatcher succeeds
while a message is left in the slot. -/
theorem session_truthful_iff (calls : List EntryCall) (before : ErrorSlot) (b : Bridge) :
    (∀ r ∈ session prog caller leftover calls before b, r.Truthful) ↔
      (∀ r ∈ (session prog caller leftover calls before b).head?,
        before.isSome → r.isDispatch → r.error.isSome) ∧
      (session prog caller leftover calls before b).IsChain Returned.Follows := by
  induction calls generalizing before b with
  | nil => simp [session]
  | cons c cs ih =>
    rcases slotAfter_cases c.isDispatch before (c.outcome prog caller b) with
      ⟨halt, slot⟩ | ⟨after, slot, truthful⟩
    · simp [session, reply_slot, slot]
    · let first : Returned := ⟨c.isDispatch, errorOf (c.outcome prog caller b), after⟩
      let rest := session prog caller leftover cs (after.map leftover)
        (c.reply prog caller (some before) b).bridge
      have run : session prog caller leftover (c :: cs) before b = first :: rest := by
        simp [session, reply_slot, slot, first, rest]
      have goes_on := ih (after.map leftover) (c.reply prog caller (some before) b).bridge
      have told_iff : first.Truthful ↔
          ∀ r ∈ some first, before.isSome → r.isDispatch → r.error.isSome := by
        simpa [first, Returned.Truthful] using truthful
      rw [run, List.forall_mem_cons, List.head?_cons, List.isChain_cons, ← told_iff, goes_on]
      refine and_congr_right fun told => ?_
      -- a truthful slot holds a message just if the call failed
      have left_behind : (after.map leftover).isSome = first.error.isSome := by
        have slot_eq : after = first.error.map blankNuls := told
        rw [slot_eq]
        simp
      rw [left_behind]
      rfl

/-- **The error slot tells the truth** about every call of a sequence that begins with an empty slot, if
and only if no dispatcher succeeds right after a call that failed. -/
theorem slot_truthful_iff (prog : Program) (caller : FunctionCaller) (leftover : String → String)
    (calls : List EntryCall) (b : Bridge) :
    (∀ r ∈ session prog caller leftover calls none b, r.Truthful) ↔
      (session prog caller leftover calls none b).IsChain Returned.Follows := by
  rw [session_truthful_iff]
  simp

/-- A plugin's function that is given no module fails; then a call of a function succeeds, and the freed
message is still in the slot. -/
theorem slot_not_truthful :
    let exported := World.exportFunction {} ⟨0, "tick", [], []⟩
    let calls := [.loadEntity none none {} {},
      .xcall .noParamsNoRet (PluginFunction.context? exported.1) .nothing]
    let run := session echo (callFunction echo 1) (fun _ => "freed") calls none
      ⟨{}, { world := exported.2 }⟩
    run = [⟨false, some "module path is null", some "module path is null"⟩,
        ⟨true, none, some "freed"⟩] ∧
      ¬ ∀ r ∈ run, r.Truthful := by
  intro exported calls run
  have told : run = [⟨false, some "module path is null", some "module path is null"⟩,
      ⟨true, none, some "freed"⟩] := rfl
  refine ⟨told, fun truthful => ?_⟩
  rw [told] at truthful
  exact absurd (truthful ⟨true, none, some "freed"⟩ (by simp)) (by simp [Returned.Truthful])

end RuntimeBridge.Abi
