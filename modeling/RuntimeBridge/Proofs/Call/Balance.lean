/-
# A call leaves the process as it found it

A call pins the thread, borrows cells, notes the addresses of what it exports for callable cells, and
counts the dispatchers it has answer.  However it ends -- with results, with an error or a panic of the
function, or because arguments or results cannot be counted, constructed or decoded -- the pins and the
cells are given back, nothing more is noted than before, and the counters have counted what happened.

While a buffer is alive, what is noted for its cells goes with them, so every step below a call owes
that the noted addresses *beyond* the records of its buffer stay the same, and that what lies there stays
(`CallBuffer.Served`).  Freeing the buffer then leaves those (`ForeignCallable.restored`).  Bodies are
lists of calls, and calls nest: an induction on the body and one on the depth.

Main statement: `call_leaves_as_found`.
-/
import RuntimeBridge.Proofs.Call.Buffers
import RuntimeBridge.Proofs.Call.Events
import RuntimeBridge.Proofs.Call.Exported
import RuntimeBridge.Proofs.Wire.Decoding
import RuntimeBridge.Proofs.Wire.Noted
namespace RuntimeBridge

/-! ## 1. Counting events -/

section Counting

variable (es later : List CallEvent)

@[simp] theorem dispatches_nil : dispatches [] = 0 := rfl

@[simp] theorem failures_nil : failures [] = 0 := rfl

@[simp] theorem dispatches_append : dispatches (es ++ later) = dispatches es + dispatches later :=
  List.countP_append

@[simp] theorem failures_append : failures (es ++ later) = failures es + failures later :=
  List.countP_append

@[simp] theorem dispatches_answered (slot : ErrorSlot) : dispatches [.answered slot] = 1 := rfl

@[simp] theorem failures_answered (slot : ErrorSlot) :
    failures [.answered slot] = if slot.isSome then 1 else 0 := by
  cases slot <;> rfl

end Counting

/-! ## 2. Balances -/

namespace World

/-- **A balance**: pins and cells are given back, and the counters have counted the events. -/
structure Balanced (w after : World) (es : List CallEvent) : Prop where
  pins : after.pinDepth = w.pinDepth
  cache : after.cache = w.cache
  supply : w.supply ≤ after.supply
  calls : after.calls = w.calls + dispatches es
  callErrors : after.callErrors = w.callErrors + failures es

/-- **A state restored**: balanced, the addresses noted are those from before, and what lies there stays
there. -/
structure Restored (w after : World) (es : List CallEvent) : Prop extends Balanced w after es where
  noted : after.cellExports = w.cellExports
  held : ∀ a ∈ w.cellExports, a ∈ w.taken → a ∈ after.taken

variable {w w' after : World} {es later : List CallEvent}

theorem Balanced.refl (w : World) : w.Balanced w [] :=
  ⟨rfl, rfl, Nat.le_refl _, rfl, rfl⟩

theorem Balanced.trans (first : w.Balanced w' es) (second : w'.Balanced after later) :
    w.Balanced after (es ++ later) where
  pins := second.pins.trans first.pins
  cache := second.cache.trans first.cache
  supply := Nat.le_trans first.supply second.supply
  calls := by rw [second.calls, first.calls, dispatches_append, Nat.add_assoc]
  callErrors := by rw [second.callErrors, first.callErrors, failures_append, Nat.add_assoc]

theorem Balanced.unpin (balanced : w.pin.Balanced after es) : w.Balanced after.unpin es where
  pins := by
    have := balanced.pins
    show after.pinDepth - 1 = w.pinDepth
    rw [this]
    exact Nat.add_sub_cancel _ 1
  cache := balanced.cache
  supply := balanced.supply
  calls := balanced.calls
  callErrors := balanced.callErrors

theorem Balanced.recordCall (balanced : w.Balanced after es) (slot : ErrorSlot) :
    w.Balanced (after.recordCall slot.isSome) (es ++ [.answered slot]) where
  pins := balanced.pins
  cache := balanced.cache
  supply := balanced.supply
  calls := by
    rw [dispatches_append, dispatches_answered, ← Nat.add_assoc, ← balanced.calls]
    rfl
  callErrors := by
    rw [failures_append, failures_answered, ← Nat.add_assoc, ← balanced.callErrors]
    cases slot <;> rfl

theorem Restored.refl (w : World) : w.Restored w [] :=
  ⟨.refl w, rfl, fun _ _ => id⟩

theorem Restored.trans (first : w.Restored w' es) (second : w'.Restored after later) :
    w.Restored after (es ++ later) where
  toBalanced := first.toBalanced.trans second.toBalanced
  noted := second.noted.trans first.noted
  held a noted taken := second.held a (first.noted ▸ noted) (first.held a noted taken)

theorem Restored.sound (restored : w.Restored after es) (sound : w.Sound) : after.Sound :=
  sound.of_same restored.cache restored.noted restored.held

/-- **Served**: balanced, and what is noted beyond the records there are now is what was noted beyond
those there were before, and lies where it lay. -/
structure Served (w after : World) (es : List CallEvent) (before now : List CallableRecord) : Prop
    extends Balanced w after es where
  noted : after.notedBeyond now = w.notedBeyond before
  held : ∀ a ∈ w.notedBeyond before, a ∈ w.taken → a ∈ after.taken

section Served

variable {before middle now : List CallableRecord}

theorem Restored.served (restored : w.Restored after es) (rs : List CallableRecord) :
    w.Served after es rs rs where
  toBalanced := restored.toBalanced
  noted := by rw [notedBeyond, restored.noted, notedBeyond]
  held a noted := restored.held a (List.mem_filter.mp noted).1

theorem Served.trans (first : w.Served w' es before middle)
    (second : w'.Served after later middle now) : w.Served after (es ++ later) before now where
  toBalanced := first.toBalanced.trans second.toBalanced
  noted := second.noted.trans first.noted
  held a noted taken := second.held a (first.noted ▸ noted) (first.held a noted taken)

/-- More records on both sides. -/
theorem Served.behind (served : w.Served after es before now) (more : List CallableRecord) :
    w.Served after es (more ++ before) (more ++ now) where
  toBalanced := served.toBalanced
  noted := by rw [notedBeyond_append, notedBeyond_append, served.noted]
  held a noted := by
    rw [notedBeyond_append] at noted
    exact served.held a (List.mem_filter.mp noted).1

theorem Served.ahead (served : w.Served after es before now) (more : List CallableRecord) :
    w.Served after es (before ++ more) (now ++ more) where
  toBalanced := served.toBalanced
  noted := by rw [notedBeyond_comm, w.notedBeyond_comm, (served.behind more).noted]
  held := by
    rw [w.notedBeyond_comm]
    exact (served.behind more).held

end Served

theorem restored_recordRun (w : World) (identity : Nat) : w.Restored (w.recordRun identity) [] :=
  ⟨⟨rfl, rfl, Nat.le_refl _, rfl, rfl⟩, rfl, fun _ _ => id⟩

end World

/-! ## 3. Decoding -/

/-- Decoding leaves all but the next identity as it was. -/
theorem World.restored_decode (w : World) (cells : List Cell) (slots : Nat) :
    w.Restored (w.decode cells slots).2 [] := by
  have decoded := w.decode_eq cells slots
  have supply : w.supply ≤ (Cell.decodeRow w cells [] 0 w.supply).2 :=
    Cell.supply_decodeRow w (fun c _ => Cell.supply_decode w c) [] 0 w.supply
  rcases row : Cell.decodeRow w cells [] 0 w.supply with ⟨stop | vs, used⟩ <;>
  · rw [row] at decoded supply
    simp only at decoded
    rw [decoded]
    exact ⟨⟨rfl, rfl, supply, rfl, rfl⟩, rfl, fun _ _ => id⟩

/-! ## 4. Arrays and parts -/

/-- The records that go with an array, if there is one. -/
def ownedBy : Option CellArray → List CallableRecord
  | some a => Cell.ownedRecordsOf a.cells
  | none => []

/-- Nothing was written in the array yet. -/
def Blank (a? : Option CellArray) : Prop :=
  ∀ a, a? = some a → ∃ count, a.cells = List.replicate count Cell.null

/-- An array was served: it lies where it did, and nothing else is noted beyond its records. -/
structure ServedArray (w after : World) (es : List CallEvent) (a? a?' : Option CellArray) : Prop
    extends World.Served w after es (ownedBy a?) (ownedBy a?') where
  block : a?'.map CellArray.block = a?.map CellArray.block

/-- The records that go with the arrays of a part. -/
def CallPart.records (part : CallPart) : List CallableRecord :=
  ownedBy part.retvals? ++ ownedBy part.params?

/-- A part was served: its arrays lie where they did, and nothing else is noted beyond their
records. -/
structure CallPart.Served (part : CallPart) (w : World) (part' : CallPart) (after : World)
    (es : List CallEvent) : Prop extends World.Served w after es part.records part'.records where
  params : part'.params?.map CellArray.block = part.params?.map CellArray.block
  retvals : part'.retvals?.map CellArray.block = part.retvals?.map CellArray.block

/-- A buffer was served, in the same sense. -/
structure CallBuffer.Served (b : CallBuffer) (w : World) (b' : CallBuffer) (after : World)
    (es : List CallEvent) : Prop extends World.Served w after es b.records b'.records where
  params : b'.params.block = b.params.block
  retvals : b'.retvals.block = b.retvals.block

/-- **Construction** in a blank array serves it. -/
theorem construct_served (src : ValueSource) {a : CellArray} (blank : Blank (some a)) {w : World}
    (sound : w.Sound) (calm : CallEvent.Calm (.sent src.values w)) :
    ServedArray w (src.construct a w).2.2 [.sent src.values w] (some a)
        (some (src.construct a w).2.1) ∧
      (src.construct a w).2.2.Sound := by
  obtain ⟨count, cells⟩ := blank a rfl
  obtain ⟨objects, points, exports, supply, frame, grown, held, sound', noted⟩ :=
    construct_notes src count cells sound fun c mem => calm _ (mem_wrappedPoints mem)
  have nothing : ownedBy (some a) = [] := by rw [ownedBy, cells, ownedRecordsOf_replicate_null]
  have balanced : w.Balanced (src.construct a w).2.2 [.sent src.values w] := by
    rw [frame]
    exact ⟨rfl, rfl, grown, rfl, rfl⟩
  refine ⟨⟨⟨balanced, ?_, fun a _ => held a⟩, rfl⟩, sound'⟩
  rw [nothing, World.notedBeyond_nil]
  exact noted

/-! ## 5. Dispatchers -/

/-- A caller restores the process, whatever function it calls. -/
def Restores (caller : FunctionCaller) (within : FunctionEvents) : Prop :=
  ∀ f args w, w.Sound → Calm (within f args w) → w.Restored (caller f args w).2 (within f args w)

/-- Routines of other runtimes keep to the same rules when they are given a part with blank return
values: they serve it, give back what they took, and cause no calls here but those `guests` tells. -/
def Courteous (prog : Program) (guests : GuestEvents) : Prop :=
  ∀ routine part w, Blank part.retvals? → w.Sound → Calm (guests routine part w) →
    part.Served w (prog.remote routine part w).part (prog.remote routine part w).world
      (guests routine part w)

theorem World.Restored.servedArray {w after : World} {es : List CallEvent}
    (restored : w.Restored after es) (a? : Option CellArray) : ServedArray w after es a? a? :=
  ⟨restored.served _, rfl⟩

theorem ServedArray.after {w w' after : World} {es later : List CallEvent}
    {a? a?' : Option CellArray} (served : ServedArray w' after later a? a?')
    (restored : w.Restored w' es) : ServedArray w after (es ++ later) a? a?' :=
  ⟨(restored.served _).trans served.toServed, served.block⟩

/-- **Results are constructed** in blank return values. -/
theorem constructResults_served (context : ExportContext) (f : NativeFunction)
    (results : List Value) {retvals : Option CellArray} (blank : Blank retvals) {w : World}
    (sound : w.Sound)
    (calm : Calm (if context.retvals > 0 && retvals.isSome then [.sent results w] else [])) :
    ServedArray w (constructResults context f results retvals w).world
      (if context.retvals > 0 && retvals.isSome then [.sent results w] else []) retvals
      (constructResults context f results retvals w).retvals := by
  unfold constructResults
  by_cases declared : context.retvals > 0
  · cases given : retvals with
    | none =>
      simp only [declared, decide_true, Option.isSome_none, Bool.and_false, Bool.false_eq_true,
        if_false, if_true]
      exact (World.Restored.refl w).servedArray none
    | some a =>
      rw [given] at blank
      simp only [given, declared, decide_true, Option.isSome_some, Bool.and_self, if_true] at calm ⊢
      have served := (construct_served ⟨results, f.retvals⟩ blank sound
        (calm _ (List.mem_singleton_self _))).1
      rcases built : ValueSource.construct ⟨results, f.retvals⟩ a w with ⟨stop | _, a', after⟩ <;>
        rwa [built] at served
  · simp only [declared, decide_false, Bool.false_and, Bool.false_eq_true, if_false]
    exact (World.Restored.refl w).servedArray retvals

theorem restored_decodeArguments (context : ExportContext) (params : Option CellArray) (w : World) :
    w.Restored (decodeArguments context params w).2 [] := by
  unfold decodeArguments
  cases params with
  | none => exact .refl w
  | some a =>
    have restored := w.restored_decode a.cells a.length
    by_cases some_param : context.params > 0
    · simp only [some_param, if_true]
      rcases decoded : w.decode a.cells a.length with ⟨stop | b, after⟩ <;>
        rwa [decoded] at restored
    · simp only [some_param, if_false]
      exact .refl w

/-- **An answer**: the arguments are decoded, the function restores what it changed, and the results are
constructed. -/
theorem answerCall_served {caller : FunctionCaller} {within : FunctionEvents}
    (restores : Restores caller within) (context : ExportContext) (params : Option CellArray)
    {retvals : Option CellArray} (blank : Blank retvals) {w : World} (sound : w.Sound)
    (calm : Calm (answerEvents caller within context params retvals w)) :
    ServedArray w (answerCall caller (some context) params retvals w).world
      (answerEvents caller within context params retvals w) retvals
      (answerCall caller (some context) params retvals w).retvals := by
  unfold answerCall answerEvents at *
  cases registered : (w.objects.resolve? context.handle).bind Object.function? with
  | none =>
    simp only [registered]
    exact (World.Restored.refl w).servedArray retvals
  | some f =>
    simp only [registered] at calm ⊢
    have decoding := restored_decodeArguments context params w
    rcases decoded : decodeArguments context params w with ⟨halt | args, later⟩
    · rw [decoded] at decoding
      exact decoding.servedArray retvals
    · rw [decoded] at decoding
      simp only [decoded] at calm ⊢
      obtain ⟨calmWithin, calmResults⟩ := calm_append.mp calm
      have running := restores f args later (decoding.sound sound) calmWithin
      have reached := decoding.trans running
      rcases ran : caller f args later with ⟨halt | results, after⟩
      · rw [ran] at reached
        simp only [List.append_nil]
        exact reached.servedArray retvals
      · rw [ran] at reached
        simp only [ran] at calmResults ⊢
        exact (constructResults_served context f results blank (reached.sound sound)
          calmResults).after reached

theorem CallPart.params?_withRetvals (part : CallPart) (a : CellArray) :
    (part.withRetvals a).params? = part.params? := by
  cases part <;> rfl

theorem CallPart.retvals?_withRetvals {part : CallPart} {b : CellArray} (given : part.retvals? = some b)
    (a : CellArray) : (part.withRetvals a).retvals? = some a := by
  cases part <;> simp_all [retvals?, withRetvals]

/-- A part is served if its return values are, so far as the answer gets to see them. -/
theorem ServedArray.part {part : CallPart} {shape : CallShape} {a?' : Option CellArray}
    {w after : World} {es : List CallEvent} :
    ServedArray w after es (if shape.hasRetvals then part.retvals? else none) a?' →
      part.Served w (match a?' with
        | some a => part.withRetvals a
        | none => part) after es := by
  rintro ⟨⟨balanced, noted, held⟩, block⟩
  cases a?' with
  | none =>
    -- nothing was written, so what is noted is what was noted
    have nothing := Option.map_eq_none_iff.mp block.symm
    rw [nothing] at noted held
    have restored : w.Restored after es := by
      simp only [ownedBy, World.notedBeyond_nil] at noted held
      exact ⟨balanced, noted, held⟩
    exact ⟨restored.served _, rfl, rfl⟩
  | some a =>
    obtain ⟨b, given, same⟩ := Option.map_eq_some_iff.mp block.symm
    rw [given] at noted held
    split at given
    · have params := part.params?_withRetvals a
      have retvals := CallPart.retvals?_withRetvals given a
      refine ⟨?_, congrArg _ params, ?_⟩
      · rw [CallPart.records, CallPart.records, given, params, retvals]
        exact (World.Served.mk balanced noted held).ahead (ownedBy part.params?)
      · rw [retvals, given]
        exact congrArg some same.symm
    · simp at given

/-- **A dispatcher of this runtime** serves the part that it is called with. -/
theorem dispatch_served {caller : FunctionCaller} {within : FunctionEvents}
    (restores : Restores caller within) (shape : CallShape) (context : ExportContext)
    {part : CallPart} (blank : Blank part.retvals?) (slot : ErrorSlot) {w : World} (sound : w.Sound)
    (calm : Calm (answerEvents caller within context (if shape.hasParams then part.params? else none)
      (if shape.hasRetvals then part.retvals? else none) w)) :
    part.Served w (dispatch caller shape (some context) part slot w).part
      (dispatch caller shape (some context) part slot w).world
      (answerEvents caller within context (if shape.hasParams then part.params? else none)
        (if shape.hasRetvals then part.retvals? else none) w) := by
  have blankSeen : Blank (if shape.hasRetvals then part.retvals? else none) := by
    split
    · exact blank
    · simp [Blank]
  have served := (answerCall_served restores context _ blankSeen sound calm).part
  unfold dispatch
  simp only
  generalize answerCall caller (some context) _ _ w = r at served
  cases r.outcome with
  | ok => exact served
  | error halt =>
    simp only
    cases halt.message? <;> exact served

section Calls

variable {prog : Program} {guests : GuestEvents} (courteous : Courteous prog guests)
  {caller : FunctionCaller} {within : FunctionEvents} (restores : Restores caller within)

include courteous restores

theorem CallPoint.dispatch_served (p : CallPoint) {part : CallPart} (blank : Blank part.retvals?)
    (slot : ErrorSlot) {w : World} (sound : w.Sound)
    (calm : Calm (p.eventsBehind guests caller within part w)) :
    part.Served w (p.dispatch prog caller part slot w).part
      (p.dispatch prog caller part slot w).world (p.eventsBehind guests caller within part w) := by
  unfold CallPoint.eventsBehind CallPoint.dispatch at *
  cases target : p.target with
  | exported shape context =>
    simp only [target] at calm
    exact RuntimeBridge.dispatch_served restores shape context blank slot sound calm
  | remote routine =>
    simp only [target] at calm
    exact courteous routine part w blank sound calm

/-- **A call of a dispatcher** serves the part, and is counted. -/
theorem CallPoint.call_served (p : CallPoint) {part : CallPart} (blank : Blank part.retvals?)
    {w : World} (sound : w.Sound) (calm : Calm (p.events prog guests caller within part w)) :
    part.Served w (p.call prog caller part w).buffer (p.call prog caller part w).world
      (p.events prog guests caller within part w) := by
  unfold CallPoint.events CallPoint.call at *
  have served := p.dispatch_served courteous restores blank none sound (calm_append.mp calm).1
  cases answered : (p.dispatch prog caller part none w).slot with
  | error halt =>
    simp only [answered, List.append_nil]
    exact served
  | ok slot =>
    cases slot with
    | none =>
      simp only [answered]
      exact ⟨⟨served.recordCall none, served.noted, served.held⟩, served.params, served.retvals⟩
    | some text =>
      simp only [answered]
      exact ⟨⟨served.recordCall (some text), served.noted, served.held⟩, served.params,
        served.retvals⟩

end Calls

/-! ## 6. Buffers -/

theorem block_getD {a? b? : Option CellArray} {b : CellArray}
    (block : a?.map CellArray.block = b?.map CellArray.block) (part : ∀ x, b? = some x → x = b) :
    (a?.getD b).block = b.block := by
  cases a? with
  | none => rfl
  | some a =>
    obtain ⟨x, isPart, same⟩ := Option.map_eq_some_iff.mp block.symm
    rw [part x isPart] at same
    exact same.symm

/-- **A buffer** is served if its part is: the rest of it is left alone. -/
theorem CallPart.Served.withPart {b : CallBuffer} {shape : CallShape} {part' : CallPart}
    {w after : World} {es : List CallEvent} (served : (b.part shape).Served w part' after es) :
    b.Served w (b.withPart part') after es := by
  have paramsBlock : (part'.params?.getD b.params).block = b.params.block := by
    refine block_getD served.params fun x isPart => ?_
    cases shape <;> simp_all [CallBuffer.part, params?]
  have retvalsBlock : (part'.retvals?.getD b.retvals).block = b.retvals.block := by
    refine block_getD served.retvals fun x isPart => ?_
    cases shape <;> simp_all [CallBuffer.part, retvals?]
  obtain ⟨served, params, retvals⟩ := served
  refine ⟨?_, paramsBlock, retvalsBlock⟩
  rw [records, records] at served
  rw [CallBuffer.records, CallBuffer.records, CallBuffer.withPart]
  cases shape with
  | paramsRet =>
    obtain ⟨p, hp, -⟩ := Option.map_eq_some_iff.mp params
    obtain ⟨r, hr, -⟩ := Option.map_eq_some_iff.mp retvals
    rw [hp, hr] at served ⊢
    exact served
  | paramsNoRet =>
    obtain ⟨p, hp, -⟩ := Option.map_eq_some_iff.mp params
    rw [hp, Option.map_eq_none_iff.mp retvals] at served ⊢
    exact served.behind (ownedBy (some b.retvals))
  | noParamsRet =>
    obtain ⟨r, hr, -⟩ := Option.map_eq_some_iff.mp retvals
    rw [hr, Option.map_eq_none_iff.mp params] at served ⊢
    have alone : w.Served after es (ownedBy (some b.retvals) ++ []) (ownedBy (some r) ++ []) := served
    rw [List.append_nil, List.append_nil] at alone
    exact alone.ahead (ownedBy (some b.params))
  | noParamsNoRet =>
    rw [Option.map_eq_none_iff.mp params, Option.map_eq_none_iff.mp retvals] at served ⊢
    have alone : w.Served after es (b.records ++ []) (b.records ++ []) := served.behind b.records
    rw [List.append_nil] at alone
    exact alone

namespace CallBuffer

variable {b b' b'' : CallBuffer} {w w' after : World} {es later : List CallEvent}

theorem Served.trans (first : b.Served w b' w' es) (second : b'.Served w' b'' after later) :
    b.Served w b'' after (es ++ later) :=
  ⟨first.toServed.trans second.toServed, second.params.trans first.params,
    second.retvals.trans first.retvals⟩

theorem Served.of_restored (restored : w.Restored after es) (b : CallBuffer) :
    b.Served w b after es :=
  ⟨restored.served _, rfl, rfl⟩

/-- **Freeing a served buffer** restores the process from before it was allocated. -/
theorem Served.freed (sound : w.Sound) {params retvals : Nat}
    (served : (alloc params retvals w).1.Served (alloc params retvals w).2 b after es) :
    w.Restored (b.free after) es := by
  obtain ⟨⟨balanced, noted, held⟩, paramsBlock, retvalsBlock⟩ := served
  have given := giveBack_alloc sound params retvals paramsBlock retvalsBlock
  have unowned : (alloc params retvals w).1.records = [] := by
    rw [records, cells_alloc_params, cells_alloc_retvals, ownedRecordsOf_replicate_null,
      ownedRecordsOf_replicate_null]
    rfl
  rw [unowned, World.notedBeyond_nil] at noted held
  obtain ⟨pins, cache, supply, calls, callErrors⟩ := balanced
  rw [alloc_frame] at pins supply calls callErrors noted held
  have freed := after.cellExports_releaseRecords b.records
  -- what was noted before is carried by no record of the buffer, so what lies there stays
  have spared : ∀ a ∈ w.cellExports, a ∈ w.taken → a ∈ (after.releaseRecords b.records).taken := by
    intro a before taken
    have beyond : a ∈ after.notedBeyond b.records := noted ▸ before
    exact World.mem_taken_releaseRecords (held a before taken)
      (.inr (of_decide_eq_true (List.mem_filter.mp beyond).2))
  rw [free_eq]
  refine ⟨⟨?_, by rw [cache, given], ?_, ?_, ?_⟩, freed.trans noted, spared⟩ <;>
    rw [World.releaseRecords_frame] <;> assumption

end CallBuffer

/-! ## 7. Calls -/

section Calls

variable {prog : Program} {guests : GuestEvents} (courteous : Courteous prog guests)
  {caller : FunctionCaller} {within : FunctionEvents} (restores : Restores caller within)

namespace ForeignCallable

theorem constructArguments_served (c : ForeignCallable) {args : List Value} {b : CallBuffer}
    (blank : Blank (some b.params)) {w : World} (sound : w.Sound)
    (calm : Calm (if c.shape.hasParams then [.sent args w] else [])) :
    b.Served w (c.constructArguments args b w).buffer (c.constructArguments args b w).world
        (if c.shape.hasParams then [.sent args w] else []) ∧
      (c.constructArguments args b w).world.Sound ∧
      (c.constructArguments args b w).buffer.retvals = b.retvals := by
  unfold constructArguments
  cases hasParams : c.shape.hasParams with
  | false => exact ⟨.of_restored (.refl w) b, sound, rfl⟩
  | true =>
    simp only [hasParams, if_true] at calm ⊢
    obtain ⟨⟨served, block⟩, sound'⟩ := construct_served ⟨args, c.params⟩ blank sound
      (calm _ (List.mem_singleton_self _))
    have lies := Option.some.inj block
    have here := served.behind (ownedBy (some b.retvals))
    rcases built : ValueSource.construct ⟨args, c.params⟩ b.params w with ⟨stop | _, params, after⟩
    all_goals
      rw [built] at here sound' lies
      exact ⟨⟨here, lies, rfl⟩, sound', rfl⟩

theorem restored_decodeResults (c : ForeignCallable) (b : CallBuffer) (w : World) :
    w.Restored (c.decodeResults b w).2 [] := by
  unfold decodeResults
  have restored := w.restored_decode b.retvals.cells c.retvals.length
  split
  · rcases decoded : w.decode b.retvals.cells c.retvals.length with ⟨stop | d, after⟩ <;>
      rwa [decoded] at restored
  · exact .refl w

include courteous restores

theorem callWith_served (c : ForeignCallable) {b : CallBuffer} (blank : Blank (some b.retvals))
    {w : World} (sound : w.Sound)
    (calm : Calm (c.point.events prog guests caller within (b.part c.shape) w.pin)) :
    b.Served w (c.callWith prog caller b w).buffer (c.callWith prog caller b w).world
      (c.point.events prog guests caller within (b.part c.shape) w.pin) := by
  have blankPart : Blank (b.part c.shape).retvals? := by
    rw [CallBuffer.retvals?_part]
    split
    · exact blank
    · simp [Blank]
  have pinned : w.pin.Sound := sound.of_same rfl rfl fun _ _ => id
  have served := (c.point.call_served courteous restores blankPart pinned calm).withPart
  exact ⟨⟨served.unpin, served.noted, served.held⟩, served.params, served.retvals⟩

/-- **A round trip** over a blank buffer serves it, wherever it ends. -/
theorem roundTrip_served (c : ForeignCallable) {args : List Value} {b : CallBuffer}
    (blankParams : Blank (some b.params)) (blankRetvals : Blank (some b.retvals)) {w : World}
    (sound : w.Sound) (calm : Calm (c.eventsOver prog guests caller within args b w)) :
    b.Served w (c.roundTrip prog caller args b w).2.1 (c.roundTrip prog caller args b w).2.2
      (c.eventsOver prog guests caller within args b w) := by
  unfold eventsOver roundTrip at *
  obtain ⟨calmArgs, calmCall⟩ := calm_append.mp calm
  obtain ⟨given, sound', retvals⟩ := c.constructArguments_served blankParams sound calmArgs
  simp only at calmCall ⊢
  -- whatever stops the round trip, the buffer was served up to there
  generalize c.constructArguments args b w = r at *
  cases constructed : r.outcome with
  | error halt =>
    simp only [List.append_nil]
    exact given
  | ok =>
    simp only [constructed] at calmCall ⊢
    rw [← retvals] at blankRetvals
    have called := c.callWith_served courteous restores blankRetvals sound' calmCall
    have reached := given.trans called
    generalize c.callWith prog caller r.buffer r.world = s at reached
    cases answered : s.outcome with
    | error halt => exact reached
    | ok =>
      have decoded := c.restored_decodeResults s.buffer s.world
      have final := reached.trans (.of_restored decoded s.buffer)
      rw [List.append_nil] at final
      exact final

/-- **A call** restores the process. -/
theorem restored (c : ForeignCallable) {args : List Value} {w : World} (sound : w.Sound)
    (calm : Calm (c.events prog guests caller within args w)) :
    w.Restored (c.call prog caller args w).2 (c.events prog guests caller within args w) := by
  unfold events call at *
  by_cases count : args.length ≠ c.params.length
  · simp only [if_pos count]
    exact .refl w
  · simp only [if_neg count] at calm ⊢
    have pinned : w.pin.Sound := sound.of_same rfl rfl fun _ _ => id
    have blankParams : Blank (some (c.buffer w.pin).1.params) := by
      rintro a ⟨⟩
      exact ⟨_, c.cells_buffer_params w.pin⟩
    have blankRetvals : Blank (some (c.buffer w.pin).1.retvals) := by
      rintro a ⟨⟩
      exact ⟨_, c.cells_buffer_retvals w.pin⟩
    have served := c.roundTrip_served courteous restores blankParams blankRetvals
      (CallBuffer.sound_alloc pinned _ _) calm
    have freed := CallBuffer.Served.freed pinned served
    exact ⟨freed.unpin, freed.noted, freed.held⟩

end ForeignCallable

end Calls

/-! ## 8. Bodies and depth -/

/-- **A body** restores the process if each of its calls does. -/
theorem Action.restored
    {call : Callable → List Value → World → Outcome (List Value) × World}
    {within : Callable → List Value → World → List CallEvent} {f : NativeFunction}
    (each : ∀ c args w, w.Sound → Calm (within c args w) →
      w.Restored (call c args w).2 (within c args w))
    (body : Action) {w : World} (sound : w.Sound) (calm : Calm (body.events call within f w)) :
    w.Restored (body.run call f w).2 (body.events call within f w) := by
  -- the answers to a body's questions and calls are what it goes on with, in a later state
  induction body generalizing w with
  | done results => exact .refl w
  | fail e => exact .refl w
  | panic p => exact .refl w
  | pinDepth next ih => exact ih _ sound calm
  | runs next ih => exact ih _ sound calm
  | call c args next ih =>
    rw [events, calm_append] at calm
    have here := each c args w sound calm.1
    have rest := calm.2
    rw [events, run]
    rcases called : call c args w with ⟨halt | results, after⟩
    · rw [called] at here rest
      cases halt with
      | error e => exact here.trans (ih _ (here.sound sound) rest)
      | panic p =>
        simp only [List.append_nil]
        exact here
      | tooDeep =>
        simp only [List.append_nil]
        exact here
    · rw [called] at here rest
      exact here.trans (ih _ (here.sound sound) rest)

/-- Calls of callables restore the process if those of functions do. -/
theorem Callable.restored {prog : Program} {guests : GuestEvents}
    (courteous : Courteous prog guests) {caller : FunctionCaller} {within : FunctionEvents}
    (restores : Restores caller within) (c : Callable) (args : List Value) (w : World)
    (sound : w.Sound) (calm : Calm (c.events prog guests caller within args w)) :
    w.Restored (c.call prog caller args w).2 (c.events prog guests caller within args w) := by
  cases c with
  | native f => exact restores f args w sound calm
  | foreign c => exact c.restored courteous restores sound calm

/-- **Functions of this runtime** restore the process, at any depth of nested calls. -/
theorem callFunction_restores {prog : Program} {guests : GuestEvents}
    (courteous : Courteous prog guests) (depth : Nat) :
    Restores (callFunction prog depth) (functionEvents prog guests depth) := by
  -- the calls in a body are one level less deep than the function it belongs to
  induction depth with
  | zero => exact fun f args w _ _ => .refl w
  | succ depth ih =>
    intro f args w sound calm
    rw [functionEvents] at calm
    rw [functionEvents, callFunction]
    by_cases count : args.length ≠ f.params.length
    · simp only [if_pos count]
      exact .refl w
    · simp only [if_neg count] at calm ⊢
      have started := World.restored_recordRun w f.identity
      have ran := Action.restored (Callable.restored courteous ih) (prog.body f args)
        (started.sound sound) calm
      have ended := started.trans ran
      rw [List.nil_append] at ended
      split
      all_goals
        rename_i stopped
        rw [stopped] at ended
        exact ended

/-! ## 9. Calls leave the process as they found it -/

/-- The call is refused before its dispatcher is called: there are too few or too many arguments, or
they cannot be constructed. -/
def ForeignCallable.RefusedEarly (c : ForeignCallable) (args : List Value) (w : World) : Prop :=
  args.length ≠ c.params.length ∨
    ∃ halt, (c.constructArguments args (c.buffer w.pin).1 (c.buffer w.pin).2).outcome = .error halt

theorem ForeignCallable.events_of_refusedEarly {c : ForeignCallable} {args : List Value} {w : World}
    (refused : c.RefusedEarly args w) (prog : Program) (guests : GuestEvents)
    (caller : FunctionCaller) (within : FunctionEvents) :
    dispatches (c.events prog guests caller within args w) = 0 ∧
      failures (c.events prog guests caller within args w) = 0 := by
  unfold events eventsOver
  by_cases count : args.length ≠ c.params.length
  · rw [if_pos count]
    exact ⟨rfl, rfl⟩
  · obtain ⟨halt, stopped⟩ := refused.resolve_left count
    simp only [if_neg count, stopped, List.append_nil]
    split <;> exact ⟨rfl, rfl⟩

/-- What counts no event counts nothing. -/
theorem World.Restored.uncounted {w after : World} {es : List CallEvent}
    (restored : w.Restored after es) (nothing : dispatches es = 0 ∧ failures es = 0) :
    after.calls = w.calls ∧ after.callErrors = w.callErrors := by
  obtain ⟨calls, errors⟩ := nothing
  exact ⟨by rw [restored.calls, calls, Nat.add_zero],
    by rw [restored.callErrors, errors, Nat.add_zero]⟩

/-- **A call leaves the process as it found it**, however it ends: the pins, the cache and the noted
addresses are those from before; the calls are counted that were answered by a dispatcher, here and
nested to any depth, and as errors those that set the error slot.  A call that is refused early counts
as neither.  The values sent may wrap foreign call points, but none that belongs to a cell.  An entity
is called alike, and nothing happens if the thread may not call it. -/
theorem call_leaves_as_found {prog : Program} {guests : GuestEvents}
    (courteous : Courteous prog guests) (depth : Nat) (args : List Value) {w : World}
    (sound : w.Sound) :
    (∀ c : ForeignCallable,
      let events := c.events prog guests (callFunction prog depth)
        (functionEvents prog guests depth) args w
      let after := (c.call prog (callFunction prog depth) args w).2
      Calm events → w.Restored after events ∧
        (c.RefusedEarly args w → after.calls = w.calls ∧ after.callErrors = w.callErrors)) ∧
    ∀ (h : EntityHandle) thread,
      let events := h.events prog guests thread (callFunction prog depth)
        (functionEvents prog guests depth) args w
      let after := (h.call thread prog (callFunction prog depth) args w).2
      Calm events → w.Restored after events ∧
        (h.callable.RefusedEarly args w ∨ (∃ e, h.checkThread thread = .error e) →
          after.calls = w.calls ∧ after.callErrors = w.callErrors) := by
  have restores := callFunction_restores courteous depth
  refine ⟨?_, ?_⟩
  · intro c events after calm
    have restored : w.Restored after events := c.restored courteous restores sound calm
    exact ⟨restored, fun early =>
      restored.uncounted (ForeignCallable.events_of_refusedEarly early _ _ _ _)⟩
  · intro h thread events after calm
    simp only [events, after, EntityHandle.events, EntityHandle.call] at calm ⊢
    cases allowed : h.checkThread thread with
    | error e => exact ⟨.refl w, fun _ => ⟨rfl, rfl⟩⟩
    | ok =>
      simp only [allowed] at calm ⊢
      have restored := h.callable.restored courteous restores sound calm
      refine ⟨restored, fun early => restored.uncounted ?_⟩
      rcases early with early | ⟨e, never⟩
      · exact ForeignCallable.events_of_refusedEarly early _ _ _ _
      · simp at never

/-- A function that fails, and one that calls it through an export before it returns its arguments. -/
def refuser : NativeFunction := ⟨0, "refuse", [], []⟩

def relay : NativeFunction :=
  ⟨1, "relay", List.replicate 2 (.ofTag .any), List.replicate 2 (.ofTag .any)⟩

def exportedRefuser : CallPoint × World :=
  World.exportFunction {} refuser

def exportedRelay : CallPoint × World :=
  exportedRefuser.2.exportFunction relay

def relaying : Program where
  body f args :=
    if f = relay then .call (.foreign ⟨exportedRefuser.1, [], []⟩) [] fun _ => .done args
    else .fail (.invocation "no")
  remote _ part w := ⟨none, part, w⟩

/-- A function of this runtime and a foreign callable. -/
def relayed : List Value :=
  [.callable (.native ⟨2, "own", [], []⟩), .callable (.foreign ⟨exportedRefuser.1, [], []⟩)]

/-- Routines of other runtimes that do nothing here. -/
theorem courteous_relaying : Courteous relaying fun _ _ _ => [] :=
  fun _ _ w _ _ _ => ⟨(World.Restored.refl w).served _, rfl, rfl⟩

theorem sound_exportedRelay : exportedRelay.2.Sound :=
  (World.sound_start.exportFunction refuser).exportFunction relay

/-- Two dispatchers answer, one inside the other, and the inner one fails. -/
theorem call_leaves_as_found_relay :
    let after := (ForeignCallable.call ⟨exportedRelay.1, relay.params, relay.retvals⟩ relaying
      (callFunction relaying 2) relayed exportedRelay.2).2
    after.pinDepth = 0 ∧ after.cache = exportedRelay.2.cache ∧ after.cellExports = [] ∧
      after.calls = 2 ∧ after.callErrors = 1 := by
  obtain ⟨restored, -⟩ := (call_leaves_as_found courteous_relaying 2 relayed sound_exportedRelay).1
    ⟨exportedRelay.1, relay.params, relay.retvals⟩ (by decide)
  exact ⟨restored.pins, restored.cache, restored.noted, restored.calls, restored.callErrors⟩

end RuntimeBridge
