/-
# Three routes to a function

A function of this runtime is reached through an entity handle, through the host's function for its
call shape, and through the plugin's function for that shape.  All three come down to one dispatcher,
which is given the same part of the buffer.  What the first two add is a pin: the thread is marked while
they are under way.  The plugin's function is called from outside and adds none.

So an entity and the host agree for every function.  The plugin agrees with them if the thread is pinned
already, and otherwise for every function that ignores the pins.  A function that asks for them is told
different numbers.

Main statement: `routes_agree`.
-/
import RuntimeBridge.Abi.PluginFunction
import RuntimeBridge.Proofs.Call.Pins
import RuntimeBridge.Proofs.Call.Transparency
namespace RuntimeBridge

/-! ## 1. Routes -/

/-- A call as its caller sees it: how it ended, with the text of the error if there is one, the buffer,
and the process apart from its pins and its counts of calls. -/
structure Seen where
  ending : Outcome ErrorSlot
  buffer : CallBuffer
  world : World

/-- A call that is sent off, whatever the functions of this runtime answer. -/
abbrev Route := FunctionCaller → Seen

/-- The state of the process apart from its pins and its counts of calls. -/
def World.uncounted (w : World) : World :=
  { w with pinDepth := 0, calls := 0, callErrors := 0 }

/-- How a call ended that reports an error by value. -/
def endingOf : Outcome Unit → Outcome ErrorSlot
  | .ok () => .ok none
  | .error halt =>
    match halt.message? with
    | some text => .ok (some text)
    | none => .error halt

/-- Through an entity, with a buffer that the caller filled. -/
def EntityHandle.route (h : EntityHandle) (thread : Nat) (prog : Program) (b : CallBuffer) (w : World) :
    Route := fun caller =>
  let r := h.callWith thread prog caller b w
  ⟨endingOf r.outcome, r.buffer, r.world.uncounted⟩

namespace Abi

/-- What is left to the caller who gave a part of the buffer. -/
def CallReport.seen (r : CallReport) (b : CallBuffer) : Seen :=
  ⟨r.slot.map Option.join, b.withPart r.part, r.world.uncounted⟩

/-- Through the host's function for a shape, with something in the error slot. -/
def HostFunction.route (prog : Program) (p : CallPoint) (shape : CallShape) (before : ErrorSlot)
    (b : CallBuffer) (w : World) : Route := fun caller =>
  (xcall prog caller (some p) (b.part shape) (some before) w).seen b

/-- Through the plugin's function for a shape, with the context of the call point and an empty error
slot. -/
def PluginFunction.route (p : CallPoint) (shape : CallShape) (b : CallBuffer) (w : World) :
    Route := fun caller =>
  (xcall caller shape (context? p) (b.part shape) (some none) w).seen b

end Abi

/-! ## 2. One dispatcher behind all of them -/

/-- What a dispatcher leaves, as its caller sees it. -/
def Dispatched.seen (d : Dispatched) (b : CallBuffer) : Seen :=
  ⟨d.slot, b.withPart d.part, d.world.uncounted⟩

theorem blankNuls_blankNuls (s : String) : blankNuls (blankNuls s) = blankNuls s := by
  simp only [blankNuls, String.toList_ofList, List.map_map]
  refine congrArg String.ofList (List.map_congr_left fun c _ => ?_)
  simp only [Function.comp]
  split <;> simp_all

/-- What an answer leaves in an empty slot and of a part of a buffer. -/
def Answered.leave (r : Answered Unit) (part : CallPart) : Dispatched :=
  ⟨(endingOf r.outcome).map fun message => message.bind slotMessage,
    (r.retvals.map part.withRetvals).getD part, r.world⟩

/-- With an empty slot a dispatcher leaves what its answer leaves. -/
theorem dispatch_part (caller : FunctionCaller) (shape : CallShape) (context : ExportContext)
    (b : CallBuffer) (w : World) :
    dispatch caller shape (some context) (b.part shape) none w =
      (answerPart caller shape context b w).leave (b.part shape) := by
  rw [dispatch_eq]
  generalize answerPart caller shape context b w = r
  obtain ⟨outcome, given, after⟩ := r
  cases outcome with
  | ok => rfl
  | error halt =>
    simp only [Answered.slotOver, Answered.leave, endingOf]
    cases halt.message? with
    | none => rfl
    | some text =>
      simp only [Except.map, Option.bind_some, slotMessage_eq]
      rfl

/-- What was left in the slot crosses the boundary again as it is; where no message was left there is
none to give. -/
def Dispatched.Crossed (d : Dispatched) : Prop :=
  match d.slot with
  | .ok none => True
  | .ok (some text) => slotMessage text = some text
  | .error halt => halt.message? = none

theorem Answered.crossed_leave (r : Answered Unit) (part : CallPart) : (r.leave part).Crossed := by
  obtain ⟨outcome, given, after⟩ := r
  cases outcome with
  | ok => exact trivial
  | error halt =>
    simp only [leave, endingOf, Dispatched.Crossed]
    cases message : halt.message? with
    | none => exact message
    | some text => simp only [Except.map, Option.bind_some, slotMessage_eq, blankNuls_blankNuls]

theorem Abi.reportCall_invocation {text : String} (crossed : slotMessage text = some text)
    (slot : Abi.SlotArgument) :
    Abi.reportCall (.error (.error (.invocation text))) slot = .ok (slot.put (some text)) := by
  rw [← crossed]
  rfl

section Dispatcher

variable (caller : FunctionCaller) {shape : CallShape} {context : ExportContext} {p : CallPoint}
  (target : p.target = .exported shape context) (b : CallBuffer) (w : World)
include target

theorem Abi.PluginFunction.route_exported :
    Abi.PluginFunction.route p shape b w caller =
      (dispatch caller shape (some context) (b.part shape) none w).seen b := by
  have named : Abi.PluginFunction.context? p = some context := by
    simp only [Abi.PluginFunction.context?, target]
  simp only [Abi.PluginFunction.route, Abi.PluginFunction.xcall, named, Option.getD_some]
  obtain ⟨_ | message, part, after⟩ := dispatch caller shape (some context) (b.part shape) none w
  · rfl
  · rfl

theorem Abi.HostFunction.route_exported (prog : Program) (before : ErrorSlot) :
    Abi.HostFunction.route prog p shape before b w caller =
      (dispatch caller shape (some context) (b.part shape) none w.pin).seen b := by
  have crossed := (answerPart caller shape context b w.pin).crossed_leave (b.part shape)
  rw [← dispatch_part] at crossed
  simp only [Abi.HostFunction.route, Abi.HostFunction.xcall, CallPoint.call, CallPoint.dispatch, target]
  generalize dispatch caller shape (some context) (b.part shape) none w.pin = d at crossed ⊢
  obtain ⟨halt | _ | text, part, after⟩ := d
  · have silent : halt.message? = none := crossed
    simp only [Abi.reportCall, silent]
    rfl
  · rfl
  · simp only [Dispatched.Crossed] at crossed
    simp only [Abi.reportCall_invocation crossed]
    rfl

theorem EntityHandle.route_exported {h : EntityHandle} {thread : Nat}
    (allowed : h.checkThread thread = .ok ()) (point : h.callable.point = p)
    (same : h.callable.shape = shape) (prog : Program) :
    h.route thread prog b w caller =
      (dispatch caller shape (some context) (b.part shape) none w.pin).seen b := by
  have crossed := (answerPart caller shape context b w.pin).crossed_leave (b.part shape)
  rw [← dispatch_part] at crossed
  simp only [EntityHandle.route, EntityHandle.callWith, allowed, ForeignCallable.callWith, point, same,
    CallPoint.call, CallPoint.dispatch, target]
  generalize dispatch caller shape (some context) (b.part shape) none w.pin = d at crossed ⊢
  obtain ⟨halt | _ | text, part, after⟩ := d
  · have silent : halt.message? = none := crossed
    simp only [endingOf, silent]
    rfl
  · rfl
  · rfl

end Dispatcher

/-! ## 3. What reaches the function -/

/-- The call reaches the function with these arguments in this state: what comes of it hangs on what is
answered there and on no other answer. -/
structure Route.Reaches (route : Route) (f : NativeFunction) (args : List Value) (found : World) :
    Prop where
  only : ∀ caller caller', caller f args found = caller' f args found → route caller = route caller'
  asked : ∃ caller caller', route caller ≠ route caller'

/-- A way of calling functions that fails with a text. -/
def failing (text : String) : FunctionCaller :=
  fun _ _ w => (.error (.error (.invocation text)), w)

theorem ignoresPins_failing (text : String) (f : NativeFunction) : IgnoresPins (failing text) f :=
  fun _ _ _ same => ⟨rfl, same⟩

/-- **One call is made**: a route reaches one function with one list of arguments. -/
theorem Route.Reaches.unique {route : Route} {f f' : NativeFunction} {args args' : List Value}
    {found found' : World} (reaches : route.Reaches f args found)
    (reaches' : route.Reaches f' args' found') : f = f' ∧ args = args' ∧ found = found' := by
  by_contra other
  obtain ⟨caller, caller', differ⟩ := reaches.asked
  -- answer the one call as the first caller does, and the other as the second one
  classical
  let both : FunctionCaller := fun g vs w =>
    if g = f ∧ vs = args ∧ w = found then caller g vs w else caller' g vs w
  refine differ ((reaches.only caller both ?_).trans (reaches'.only both caller' ?_))
  · exact (if_pos ⟨rfl, rfl, rfl⟩).symm
  · exact if_neg fun same => other ⟨same.1.symm, same.2.1.symm, same.2.2.symm⟩

section Reached

variable {shape : CallShape} {context : ExportContext} {b : CallBuffer} {w later : World}
  {f : NativeFunction}
  (registered : (w.objects.resolve? context.handle).bind Object.function? = some f)
include registered

/-- Parameters that cannot be decoded reach no function. -/
theorem dispatch_unreached {halt : Halt}
    (refused : decodeArguments context (if shape.hasParams then some b.params else none) w =
      (.error halt, later)) (caller caller' : FunctionCaller) :
    dispatch caller shape (some context) (b.part shape) none w =
      dispatch caller' shape (some context) (b.part shape) none w := by
  simp only [dispatch_part, answerPart, answerCall, registered, refused]

/-- **Parameters that can be decoded** reach the function as arguments. -/
theorem reaches_dispatch {args : List Value}
    (decoded : decodeArguments context (if shape.hasParams then some b.params else none) w =
      (.ok args, later)) :
    Route.Reaches (fun caller => (dispatch caller shape (some context) (b.part shape) none w).seen b)
      f args later where
  only caller caller' same := by
    have first := answerPart_eq registered decoded caller
    have second := answerPart_eq registered decoded caller'
    simp only [dispatch_part]
    rcases ran : caller f args later with ⟨halt | results, after⟩
    · rw [first.1 halt after ran, second.1 halt after (same ▸ ran)]
    · rw [first.2 results after ran, second.2 results after (same ▸ ran)]
  asked := by
    -- two ways to fail are told apart by the text in the slot
    have text : ∀ text, (dispatch (failing text) shape (some context) (b.part shape) none w).slot =
        .ok (some (blankNuls text)) := by
      intro text
      rw [dispatch_part, (answerPart_eq registered decoded (failing text)).1 _ later rfl,
        ← slotMessage_eq]
      rfl
    refine ⟨failing "a", failing "b", fun same => ?_⟩
    have slots := congrArg Seen.ending same
    simp only [Dispatched.seen, text] at slots
    revert slots
    decide

end Reached

/-! ## 4. Agreement -/

/-- How the routes to a function agree: an entity's and the host's from a state, and the plugin's from
any state. -/
structure RoutesAgree (f : NativeFunction) (entity host : Route) (plugin : World → Route) (w : World) :
    Prop where
  entity_host : ∀ caller, entity caller = host caller
  /-- The plugin agrees for every function if the thread is pinned already. -/
  entity_pinned : ∀ caller, entity caller = plugin w.pin caller
  /-- The plugin agrees from the same state for every function that ignores the pins. -/
  entity_plugin : ∀ caller, IgnoresPins caller f → entity caller = plugin w caller
  /-- The same arguments reach the function, in states that differ in their pins only.  Or nothing
  reaches it, and there is one end to all. -/
  arguments :
    (∃ args found found', entity.Reaches f args found ∧ host.Reaches f args found ∧
      (plugin w).Reaches f args found' ∧ found'.SameButPins found) ∨
    ∃ seen, ∀ caller, entity caller = seen ∧ host caller = seen ∧ plugin w caller = seen

theorem World.SameButPins.uncounted_eq {w w' : World} (same : w.SameButPins w') :
    w.uncounted = w'.uncounted := by
  obtain ⟨pins, rfl⟩ := same
  rfl

theorem Dispatched.Alike.seen_eq {d d' : Dispatched} (alike : d.Alike d') (b : CallBuffer) :
    d.seen b = d'.seen b := by
  simp only [Dispatched.seen, alike.slot, alike.part, alike.worlds.uncounted_eq]

/-- **All routes agree** for a function that ignores the pins, whatever is in the buffer; an entity's and
the host's agree for every function. -/
theorem routes_agree (h : EntityHandle) (f : NativeFunction) (thread : Nat) (prog : Program)
    (w : World) (exports : h.callable.Exports f w) (allowed : h.checkThread thread = .ok ())
    (b : CallBuffer) (before : ErrorSlot) :
    RoutesAgree f (h.route thread prog b w)
      (Abi.HostFunction.route prog h.callable.point f.shape before b w)
      (Abi.PluginFunction.route h.callable.point f.shape b) w := by
  obtain ⟨⟨id, target, registered⟩, params, retvals⟩ := exports
  have shape : h.callable.shape = f.shape := by
    rw [ForeignCallable.shape, NativeFunction.shape, params, retvals]
  let context : ExportContext := ⟨id, f.params.length, f.retvals.length⟩
  let dispatched (caller : FunctionCaller) (v : World) : Seen :=
    (dispatch caller f.shape (some context) (b.part f.shape) none v).seen b
  have entity : h.route thread prog b w = fun caller => dispatched caller w.pin :=
    funext fun caller => EntityHandle.route_exported caller target b w allowed rfl shape prog
  have host : Abi.HostFunction.route prog h.callable.point f.shape before b w =
      fun caller => dispatched caller w.pin :=
    funext fun caller => Abi.HostFunction.route_exported caller target b w prog before
  have plugin : Abi.PluginFunction.route h.callable.point f.shape b =
      fun v caller => dispatched caller v :=
    funext fun v => funext fun caller => Abi.PluginFunction.route_exported caller target b v
  rw [entity, host, plugin]
  have unpinned : ∀ caller, IgnoresPins caller f → dispatched caller w.pin = dispatched caller w := by
    intro caller ignores
    refine ((dispatch_sameButPins (World.sameButPins_pin w) context ?_ _ _ _).seen_eq b).symm
    intro g found
    obtain rfl : f = g := Option.some.inj (registered.symm.trans found)
    exact ignores
  refine ⟨fun _ => rfl, fun _ => rfl, unpinned, ?_⟩
  -- the arguments are decoded from the parameters alike, pinned or not
  obtain ⟨arguments, found', found, decoded, decodedPinned, same⟩ :=
    (pinBlind_decodeArguments context (if f.shape.hasParams then some b.params else none)
      (World.sameButPins_pin w)).shared
  cases arguments with
  | ok args =>
    exact .inl ⟨args, found, found', reaches_dispatch registered decodedPinned,
      reaches_dispatch registered decodedPinned, reaches_dispatch registered decoded, same⟩
  | error halt =>
    have refused : ∀ caller, dispatched caller w = dispatched (failing "") w := fun caller =>
      congrArg (Dispatched.seen · b) (dispatch_unreached registered decoded caller _)
    have refusedPinned : ∀ caller, dispatched caller w.pin = dispatched (failing "") w.pin :=
      fun caller =>
        congrArg (Dispatched.seen · b) (dispatch_unreached registered decodedPinned caller _)
    have both := unpinned (failing "") (ignoresPins_failing "" f)
    exact .inr ⟨dispatched (failing "") w, fun caller =>
      ⟨(refusedPinned caller).trans both, (refusedPinned caller).trans both, refused caller⟩⟩

/-- An entity for the export of a function in a fresh process. -/
def entityFor (f : NativeFunction) : EntityHandle where
  origin := 0
  pluginName := "local"
  module := "sample"
  path := f.name
  callable := ⟨(World.exportFunction {} f).1, f.params, f.retvals⟩

theorem exports_entityFor (f : NativeFunction) :
    (entityFor f).callable.Exports f (World.exportFunction {} f).2 :=
  exports_exportFunction {} f rfl rfl

theorem unasking_echo : echo.Unasking where
  bodies _ _ := trivial
  routines _ _ {_ _} same := ⟨rfl, rfl, same⟩

/-- A buffer that was used before. -/
def usedBuffer : CallBuffer where
  params := { cells := [.ofScalar (.bool true), .ofHandle .nullLocal] }
  retvals := { cells := [.ofScalar (.bool false), .null] }

theorem routes_agree_echo :
    let w := (World.exportFunction {} twoOpen).2
    let point := (World.exportFunction {} twoOpen).1
    let entity := (entityFor twoOpen).route 0 echo usedBuffer w (callFunction echo 1)
    entity = Abi.HostFunction.route echo point .paramsRet (some "stale") usedBuffer w
        (callFunction echo 1) ∧
      entity = Abi.PluginFunction.route point .paramsRet usedBuffer w (callFunction echo 1) ∧
      entity.ending = .ok none ∧ entity.buffer.retvals.cells = [.ofScalar (.bool true), .null] := by
  have agree := routes_agree (entityFor twoOpen) twoOpen 0 echo _ (exports_entityFor twoOpen) rfl
    usedBuffer (some "stale")
  exact ⟨agree.entity_host _,
    agree.entity_plugin _ (ignoresPins_callFunction unasking_echo 1 twoOpen), rfl, rfl⟩

/-- A program whose functions return how many round trips are under way. -/
def countingPins : Program where
  body _ _ := .pinDepth fun pins => .done [.scalar (.int .int64 (Fixed.wrap .int64 pins))]
  remote _ part w := ⟨none, part, w⟩

/-- A function without parameters that returns a number. -/
def oneNumber : NativeFunction :=
  ⟨0, "number", [], [.ofTag (.ofKind (.int .int64))]⟩

/-- A function that asks for the pins is told of one by an entity, and of none by the plugin.  An entity
that is bound to another thread does not call it at all. -/
theorem routes_not_agreeing :
    let w := (World.exportFunction {} oneNumber).2
    let b := (CallBuffer.alloc 0 1 w).1
    let caller := callFunction countingPins 1
    let entity := (entityFor oneNumber).route 0 countingPins b w caller
    let plugin := Abi.PluginFunction.route (entityFor oneNumber).callable.point .noParamsRet b w caller
    let bound := { entityFor oneNumber with owner := some 1 }.route 0 countingPins b w caller
    (entityFor oneNumber).callable.Exports oneNumber w ∧
      entity.ending = .ok none ∧ plugin.ending = .ok none ∧
      entity.buffer.retvals.cells.map Cell.scalar? = [some (.int .int64 (Fixed.wrap .int64 1))] ∧
      plugin.buffer.retvals.cells.map Cell.scalar? = [some (.int .int64 (Fixed.wrap .int64 0))] ∧
      entity.buffer ≠ plugin.buffer ∧
      bound.ending = .ok (some "Entity 'number' must be invoked on the thread that loaded it") :=
  ⟨exports_entityFor oneNumber, rfl, rfl, rfl, rfl,
    fun same => absurd (congrArg (fun b => b.retvals.cells.map Cell.scalar?) same) (by decide), rfl⟩

end RuntimeBridge
