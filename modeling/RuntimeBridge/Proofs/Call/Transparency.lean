/-
# Calls through an export are transparent

A function of this runtime can be called directly, or through a call point that was exported for it:
then the arguments cross the wire, the dispatcher of its shape calls it, and the results cross the wire
back.  For a function that answers equal arguments equally the two are the same, except that a failure
arrives as the text of its message.

Main statement: `call_transparent`, for calls of foreign callables and of entities.
-/
import RuntimeBridge.Proofs.Call.Exported
import RuntimeBridge.Proofs.Wire.Conforming
namespace RuntimeBridge

/-! ## 1. Exports and outcomes -/

/-- The callable is bound to an export of the function, with a signature of the same lengths. -/
structure ForeignCallable.Exports (c : ForeignCallable) (f : NativeFunction) (w : World) : Prop where
  target : ∃ id, c.point.target = .exported f.shape ⟨id, f.params.length, f.retvals.length⟩ ∧
    (w.objects.resolve? id).bind Object.function? = some f
  params : c.params.length = f.params.length
  retvals : c.retvals.length = f.retvals.length

/-- Exporting a function gives such a call point, for any signature of these lengths. -/
theorem exports_exportFunction (w : World) (f : NativeFunction) {params retvals : List TypeInfo}
    (p : params.length = f.params.length) (r : retvals.length = f.retvals.length) :
    ForeignCallable.Exports ⟨(w.exportFunction f).1, params, retvals⟩ f (w.exportFunction f).2 where
  target := by
    refine ⟨(w.registerObject (.ofFunction f)).1, rfl, ?_⟩
    have found := w.resolve?_registerObject (.ofFunction f)
    show ((w.registerObject (.ofFunction f)).2.objects.resolve? _).bind _ = some f
    rw [found]
    rfl
  params := p
  retvals := r

/-- The same failure, or the same results but for the identities of handles. -/
def SameOutcome : Outcome (List Value) → Outcome (List Value) → Prop
  | .ok us, .ok vs => us.map Value.anonymous = vs.map Value.anonymous
  | .error halt, .error halt' => halt = halt'
  | _, _ => False

/-- The function answers equal arguments equally, in this state and in later ones. -/
def Steady (caller : FunctionCaller) (f : NativeFunction) (w : World) : Prop :=
  ∀ args args' later, args'.map Value.anonymous = args.map Value.anonymous → w.Keeps later →
    SameOutcome (caller f args' later).1 (caller f args w).1

/-- A function never returns more or fewer values than it declares. -/
theorem length_of_callFunction {prog : Program} {depth : Nat} {f : NativeFunction}
    {args results : List Value} {w : World}
    (ok : (callFunction prog depth f args w).1 = .ok results) :
    results.length = f.retvals.length := by
  cases depth with
  | zero => simp [callFunction] at ok
  | succ depth =>
    rw [callFunction] at ok
    split at ok
    next => simp at ok
    next =>
      simp only at ok
      split at ok
      next found after ran =>
        unfold NativeFunction.checkResults at ok
        split at ok
        next => simp at ok
        next same =>
          rw [← Except.ok.inj ok]
          exact Decidable.not_not.mp same
      next => simp at ok

/-! ## 2. Arguments -/

theorem ForeignCallable.hasParams_shape (c : ForeignCallable) :
    c.shape.hasParams = decide (0 < c.params.length) :=
  CallShape.hasParams_ofCounts _ _

theorem ForeignCallable.hasRetvals_shape (c : ForeignCallable) :
    c.shape.hasRetvals = decide (0 < c.retvals.length) :=
  CallShape.hasRetvals_ofCounts _ _

/-- **Arguments arrive**: conforming arguments are constructed, and the callee decodes the same. -/
theorem arguments_arrive {c : ForeignCallable} {args : List Value}
    (conforms : Conforms c.params args) (count : args.length = c.params.length) {b : CallBuffer}
    (fresh : b.params.cells = List.replicate c.params.length .null) (w : World) :
    ∃ params after, c.constructArguments args b w = ⟨.ok (), { b with params }, after⟩ ∧
      w.Keeps after ∧ ∀ context : ExportContext, context.params = args.length →
        ∀ later, after.Keeps later → ∃ args' next,
          decodeArguments context (if c.shape.hasParams then some params else none) later =
            (.ok args', next) ∧
          later.Keeps next ∧ args'.map Value.anonymous = args.map Value.anonymous := by
  unfold ForeignCallable.constructArguments
  rw [c.hasParams_shape]
  by_cases some_param : 0 < c.params.length
  · rw [decide_eq_true some_param, if_pos rfl]
    obtain ⟨a, after, built, keeps, len, back⟩ := conforms.sent (count ▸ fresh) w
    rw [built]
    refine ⟨a, after, rfl, keeps, fun context same later kept => ?_⟩
    obtain ⟨d, next, decoded, keeps', values⟩ := back later kept
    refine ⟨d.slots, next, ?_, keeps', values⟩
    have positive : context.params > 0 := by omega
    rw [if_pos rfl]
    simp only [decodeArguments, if_pos positive, CellArray.length, len, decoded]
  · rw [decide_eq_false some_param, if_neg Bool.false_ne_true]
    have nothing : args = [] := List.length_eq_zero_iff.mp (by omega)
    refine ⟨b.params, w, rfl, .refl w, fun context _ later _ => ⟨[], later, rfl, .refl later, ?_⟩⟩
    rw [nothing]

/-! ## 3. Results -/

/-- **Results arrive**: conforming results are constructed, and the caller decodes the same. -/
theorem results_arrive {c : ForeignCallable} {f : NativeFunction} {results : List Value}
    (conforms : Conforms f.retvals results) (count : results.length = f.retvals.length)
    (agree : c.retvals.length = f.retvals.length) {b : CallBuffer}
    (fresh : b.retvals.cells = List.replicate f.retvals.length .null) {context : ExportContext}
    (declared : context.retvals = f.retvals.length) (w : World) :
    ∃ retvals after,
      constructResults context f results (if c.shape.hasRetvals then some b.retvals else none) w =
        ⟨.ok (), retvals, after⟩ ∧
      ∀ later, after.Keeps later → ∃ results' next,
        c.decodeResults (b.answered c.shape retvals) later = (.ok results', next) ∧
        results'.map Value.anonymous = results.map Value.anonymous := by
  unfold constructResults ForeignCallable.decodeResults CallBuffer.answered
  rw [c.hasRetvals_shape, agree, declared]
  by_cases some_result : 0 < f.retvals.length
  · rw [if_pos some_result, decide_eq_true some_result, if_pos rfl]
    obtain ⟨a, after, built, -, len, back⟩ := conforms.sent (count ▸ fresh) w
    simp only [built]
    refine ⟨some a, after, rfl, fun later kept => ?_⟩
    obtain ⟨d, next, decoded, -, values⟩ := back later kept
    refine ⟨d.slots, next, ?_, values⟩
    simp only [if_true, ← count, decoded]
  · rw [if_neg some_result, decide_eq_false some_result, if_neg Bool.false_ne_true]
    have nothing : results = [] := List.length_eq_zero_iff.mp (by omega)
    refine ⟨none, w, rfl, fun later _ => ⟨[], later, ?_, ?_⟩⟩
    · simp
    · rw [nothing]

/-! ## 4. Calls -/

theorem call_fst {c : ForeignCallable} {args : List Value} (count : args.length = c.params.length)
    (prog : Program) (caller : FunctionCaller) (w : World) :
    (c.call prog caller args w).1 =
      (c.roundTrip prog caller args (c.buffer w.pin).1 (c.buffer w.pin).2).1 := by
  rw [ForeignCallable.call, if_neg (by simpa using count)]

theorem roundTrip_fst {c : ForeignCallable} {args : List Value} {b b' : CallBuffer} {w w' : World}
    (constructed : c.constructArguments args b w = ⟨.ok (), b', w'⟩) (prog : Program)
    (caller : FunctionCaller) :
    (c.roundTrip prog caller args b w).1 =
      match (c.callWith prog caller b' w').outcome with
      | .error halt => .error halt
      | .ok () => (c.decodeResults (c.callWith prog caller b' w').buffer
          (c.callWith prog caller b' w').world).1 := by
  simp only [ForeignCallable.roundTrip, constructed]
  cases (c.callWith prog caller b' w').outcome <;> rfl

/-- What a call through an export comes to: the function is called with the same arguments in a later
state, and its answer crosses the wire. -/
theorem call_exported {c : ForeignCallable} {f : NativeFunction} {w : World}
    (exports : c.Exports f w) {args : List Value} (conforms : Conforms c.params args)
    (count : args.length = c.params.length) (prog : Program) (caller : FunctionCaller) :
    ∃ (args' : List Value) (later : World) (context : ExportContext) (b : CallBuffer),
      args'.map Value.anonymous = args.map Value.anonymous ∧ w.Keeps later ∧
      context.retvals = f.retvals.length ∧
      b.retvals.cells = List.replicate f.retvals.length .null ∧
      (∀ halt after, caller f args' later = (.error halt, after) →
        (c.call prog caller args w).1 = .error halt.crossed) ∧
      ∀ results after retvals final, caller f args' later = (.ok results, after) →
        constructResults context f results (if c.shape.hasRetvals then some b.retvals else none)
          after = ⟨.ok (), retvals, final⟩ →
        ∃ back, final.Keeps back ∧
          (c.call prog caller args w).1 = (c.decodeResults (b.answered c.shape retvals) back).1 := by
  obtain ⟨⟨id, target, registered⟩, params, retvals⟩ := exports
  have shape : c.shape = f.shape := by
    rw [ForeignCallable.shape, NativeFunction.shape, params, retvals]
  rw [← shape] at target
  -- a fresh buffer, with the arguments constructed in it
  have allocated : w.Keeps (c.buffer w.pin).2 :=
    World.keeps_of_objects_eq (c.objects_buffer w.pin)
  obtain ⟨given, built, constructed, kept, arrive⟩ := arguments_arrive conforms count
    (c.cells_buffer_params w.pin) (c.buffer w.pin).2
  obtain ⟨args', later, decoded, keeps, same⟩ := arrive ⟨id, f.params.length, f.retvals.length⟩
    (by rw [count, params]) built.pin (World.keeps_of_objects_eq rfl)
  let b : CallBuffer := { (c.buffer w.pin).1 with params := given }
  have found : (built.pin.objects.resolve? id).bind Object.function? = some f :=
    (allocated.trans kept).function? registered
  obtain ⟨stopped, answered⟩ := answerPart_eq (b := b) found decoded caller
  have call : (c.call prog caller args w).1 = _ :=
    (call_fst count prog caller w).trans (roundTrip_fst constructed prog caller)
  obtain ⟨outcome, buffer, objects⟩ := callWith_exported target prog caller b built
  refine ⟨args', later, ⟨id, f.params.length, f.retvals.length⟩, b, same,
    (allocated.trans kept).trans keeps, rfl, ?_, ?_, ?_⟩
  · rw [← retvals]
    exact c.cells_buffer_retvals w.pin
  · intro halt after ran
    rw [stopped halt after ran] at outcome
    have failed : (c.callWith prog caller b built).outcome = .error halt.crossed := outcome
    rw [call, failed]
  · intro results after filled final ran crossed
    rw [answered results after ran, crossed] at outcome buffer objects
    refine ⟨(c.callWith prog caller b built).world, World.keeps_of_objects_eq objects, ?_⟩
    have succeeded : (c.callWith prog caller b built).outcome = .ok () := outcome
    rw [call, succeeded]
    simp only
    rw [buffer]

/-! ## 5. Transparency -/

/-- How the outcome of a call through an export follows from that of a direct call: conforming results
arrive, and a failure or a panic arrives as its message with a blank in place of each NUL. -/
structure Follows (f : NativeFunction) (direct through : Outcome (List Value)) : Prop where
  results : ∀ results, direct = .ok results → Conforms f.retvals results →
    ∃ results', through = .ok results' ∧
      results'.map Value.anonymous = results.map Value.anonymous
  failure : ∀ e, direct = .error (.error e) →
    through = .error (.error (.invocation (blankNuls e.message)))
  panicked : ∀ text, direct = .error (.panic (.text text)) →
    through = .error (.error (.invocation (blankNuls ("panic: " ++ text))))

theorem follows_of_failure {f : NativeFunction} {halt : Halt} {through : Outcome (List Value)}
    (crossed : through = .error halt.crossed) : Follows f (.error halt) through where
  results results ok := by simp at ok
  failure e same := by
    rw [crossed, Except.error.inj same]
    rfl
  panicked text same := by
    rw [crossed, Except.error.inj same]
    rfl

/-- Outcomes that are the same but for identities are followed alike. -/
theorem Follows.of_same {f : NativeFunction} {direct direct' through : Outcome (List Value)}
    (same : SameOutcome direct' direct) (follows : Follows f direct' through) :
    Follows f direct through := by
  cases direct with
  | ok results =>
    cases direct' with
    | error halt => exact absurd same id
    | ok results' =>
      refine ⟨fun found ok conforms => ?_, fun e failed => ?_, fun text failed => ?_⟩
      · obtain rfl : results = found := Except.ok.inj ok
        obtain ⟨back, arrived, values⟩ := follows.results results' rfl (conforms.of_same same)
        exact ⟨back, arrived, values.trans same⟩
      · simp at failed
      · simp at failed
  | error halt =>
    cases direct' with
    | ok results' => exact absurd same id
    | error halt' =>
      obtain rfl : halt' = halt := same
      exact follows

/-- **Calls through an export are transparent.**  Let a function answer equal arguments equally.  With
conforming arguments, a call through its export follows the direct call.  With another number of
arguments it is refused, and nothing runs.  An entity that the thread may call is called alike. -/
theorem call_transparent (prog : Program) (depth : Nat) (c : ForeignCallable) (f : NativeFunction)
    (w : World) (exports : c.Exports f w) (steady : Steady (callFunction prog depth) f w)
    (args : List Value) :
    (args.length = c.params.length → Conforms c.params args →
      Follows f (callFunction prog depth f args w).1
        (c.call prog (callFunction prog depth) args w).1) ∧
      (args.length ≠ c.params.length →
        c.call prog (callFunction prog depth) args w =
          (.error (.error (.argCountMismatch c.params.length args.length)), w)) ∧
      ∀ (h : EntityHandle) thread, h.callable = c → h.checkThread thread = .ok () →
        h.call thread prog (callFunction prog depth) args w =
          c.call prog (callFunction prog depth) args w := by
  refine ⟨fun count conforms => ?_, fun count => if_pos count, fun h thread same allowed => ?_⟩
  · obtain ⟨args', later, context, b, sameArgs, keeps, declared, fresh, failed, returned⟩ :=
      call_exported exports conforms count prog (callFunction prog depth)
    refine Follows.of_same (steady args args' later sameArgs keeps) ?_
    rcases ran : callFunction prog depth f args' later with ⟨halt | results, after⟩
    · exact follows_of_failure (failed halt after ran)
    · refine ⟨fun found ok conforming => ?_, fun e halted => ?_, fun text halted => ?_⟩
      · obtain rfl : results = found := Except.ok.inj ok
        have len : results.length = f.retvals.length := length_of_callFunction (by rw [ran])
        obtain ⟨retvals, final, constructed, arrive⟩ :=
          results_arrive conforming len exports.retvals fresh declared after
        obtain ⟨back, kept, outcome⟩ := returned results after retvals final ran constructed
        obtain ⟨results', next, decoded, values⟩ := arrive back kept
        exact ⟨results', by rw [outcome, decoded], values⟩
      · simp at halted
      · simp at halted
  · rw [EntityHandle.call, allowed, same]

/-- A program whose functions return their arguments. -/
def echo : Program where
  body _ args := .done args
  remote _ part w := ⟨none, part, w⟩

/-- A function of two open parameters and as many return values. -/
def twoOpen : NativeFunction :=
  ⟨0, "echo", List.replicate 2 (.ofTag .any), List.replicate 2 (.ofTag .any)⟩

theorem callFunction_echo {args : List Value} (count : args.length = 2) (w : World) :
    callFunction echo 1 twoOpen args w = (.ok args, w.recordRun 0) := by
  simp [callFunction, count, twoOpen, echo, Action.run, NativeFunction.checkResults]

theorem steady_echo (w : World) : Steady (callFunction echo 1) twoOpen w := by
  intro args args' later same _
  have len : args'.length = args.length := length_eq_of_same same
  by_cases count : args.length = 2
  · rw [callFunction_echo count, callFunction_echo (len.trans count)]
    exact same
  · simp [callFunction, count, len, twoOpen, SameOutcome]

theorem conforms_mixedValues : Conforms (List.replicate 2 (.ofTag .any)) mixedValues where
  suited := suited_of_open (by simp [TypeInfo.isAny, TypeInfo.ofTag, TypeTag.isAny])
  returns := returns_mixedValues
  sendable := sendable_mixedValues

theorem call_transparent_mixedValues :
    ∃ results, (ForeignCallable.call
        ⟨(World.exportFunction {} twoOpen).1, twoOpen.params, twoOpen.retvals⟩ echo
        (callFunction echo 1) mixedValues (World.exportFunction {} twoOpen).2).1 = .ok results ∧
      results.map Value.anonymous = mixedValues.map Value.anonymous := by
  have through := call_transparent echo 1 _ twoOpen _ (exports_exportFunction {} twoOpen rfl rfl)
    (steady_echo _) mixedValues
  exact (through.1 rfl conforms_mixedValues).results mixedValues
    (by rw [callFunction_echo rfl]) conforms_mixedValues

end RuntimeBridge
