/-
# Dispatches that fail

Between decoding the arguments and constructing the last result a dispatch can fail in five places.  In
four of them no result was constructed, and the return values are untouched: the arguments cannot be
decoded, there are too few or too many of them, the body fails or panics, or it gives another number of
results than it should (`FailsEarly`).  In the fifth a result cannot be constructed; the results before
it are in their cells then, and the cells behind it are as they were (`FilledUpTo`).

Either way there is a message, the parameters are as they were, and of the process nothing changed after
the body but for ids and addresses that were minted, and what overwritten return values owned.  So the
next dispatch through the same export goes as it would have gone without the failed one
(`DispatchesAlike`): the same arguments arrive, and if the function answers them alike, the caller is
told the same.  There are two ways in which it may not: if a return value that was overwritten owned the
export, or a callable that the next parameters carry (`next_dispatch_unlike`); and if the next parameters
name an id before it was given, which the results have taken meanwhile.

Main statement: `failed_dispatch`.
-/
import RuntimeBridge.Proofs.Call.Balance
import RuntimeBridge.Proofs.Call.Delivery
import RuntimeBridge.Proofs.Wire.Checks
import RuntimeBridge.Proofs.Wire.Footprint
import RuntimeBridge.Proofs.Wire.Nameless
namespace RuntimeBridge

open World (GrowsTo AgreesOn FreedWith)

/-! ## 1. Five ways to fail -/

/-- The context of an export that is registered: it names the function and counts its signature. -/
structure ExportContext.Live (context : ExportContext) (f : NativeFunction) (w : World) : Prop where
  registered : (w.objects.resolve? context.handle).bind Object.function? = some f
  params : context.params = f.params.length
  retvals : context.retvals = f.retvals.length

/-- Run the body of a function. -/
def NativeFunction.runBody (prog : Program) (depth : Nat) (f : NativeFunction) (args : List Value)
    (w : World) : Outcome (List Value) × World :=
  (prog.body f args).run (fun c args w => c.call prog (callFunction prog depth) args w) f
    (w.recordRun f.identity)

/-- A call runs the body between two counts: of the arguments, and of the results. -/
theorem callFunction_eq (prog : Program) (depth : Nat) (f : NativeFunction) (args : List Value)
    (w : World) :
    callFunction prog (depth + 1) f args w =
      if args.length ≠ f.params.length then
        (.error (.error (.argCountMismatch f.params.length args.length)), w)
      else
        match f.runBody prog depth args w with
        | (.ok results, w) => (f.checkResults results, w)
        | (.error halt, w) => (.error halt, w) := by
  rw [callFunction]
  rfl

section Failures

variable (prog : Program) (depth : Nat) (f : NativeFunction) (context : ExportContext)
  (params : Option CellArray) (w : World)

/-- The body is reached with as many arguments as it has parameters, and answers like this. -/
def BodyAnswers (answer : Outcome (List Value)) (later : World) : Prop :=
  ∃ args found, decodeArguments context params w = (.ok args, found) ∧
    args.length = f.params.length ∧ f.runBody prog depth args found = (answer, later)

/-- A dispatch fails before any result is constructed: with this halt, and in the state that the body
left, or in the one from before if the body was not run. -/
inductive FailsEarly : Halt → World → Prop
  | undecoded {halt : Halt} {found : World}
    (refused : decodeArguments context params w = (.error halt, found)) : FailsEarly halt w
  | argCount {args : List Value} {found : World}
    (decoded : decodeArguments context params w = (.ok args, found))
    (other : args.length ≠ f.params.length) :
    FailsEarly (.error (.argCountMismatch f.params.length args.length)) w
  | body {halt : Halt} {later : World}
    (failed : BodyAnswers prog depth f context params w (.error halt) later)
    (told : halt ≠ .tooDeep) : FailsEarly halt later
  | resultCount {results : List Value} {later : World}
    (answered : BodyAnswers prog depth f context params w (.ok results) later)
    (other : results.length ≠ f.retvals.length) :
    FailsEarly (.error (.invocation ("'" ++ f.name ++ "' returned " ++ results.length.repr ++
      " values, expected " ++ f.retvals.length.repr))) later

end Failures

/-- Construction stopped at index `k`, from the state `later` and over the array `a`.  In front of it are
the cells that the values before it make by themselves, the value there cannot be constructed, whatever
cell it is to fill, and behind it the cells are as they were. -/
structure ValueSource.FilledUpTo (src : ValueSource) (k : Nat) (a after : CellArray) (later : World)
    (stop : Stop) : Prop where
  inside : k < a.cells.length
  place : stop.path.head? = some k
  front :
    let alone := ValueSource.construct ⟨src.values.take k, src.declared.take k⟩
      { a with cells := a.cells.take k } later
    alone.1 = .ok () ∧ after.cells.take k = alone.2.1.cells
  here : ∀ v, src.values[k]? = some v →
    ∀ old w, (v.buildTop k src.declared[k]? old w).outcome = .error stop
  behind : after.cells.drop (k + 1) = a.cells.drop (k + 1)
  rest : after = { a with cells := after.cells } ∧ after.cells.length = a.cells.length

/-! ## 2. The next dispatch -/

/-- The ids that decoding the parameters of a part looks up. -/
def CallPart.ids (part : CallPart) : List Nat :=
  match part.params? with
  | some a => Cell.idsOf a.cells
  | none => []

/-- The caller is told the same, and is given the same return values but for what was minted. -/
structure Dispatched.SameButMinted (d d' : Dispatched) : Prop where
  slot : d.slot = d'.slot
  params : d.part.params? = d'.part.params?
  retvals : d.part.retvals?.map CellArray.anonymous = d'.part.retvals?.map CellArray.anonymous

/-- The function behind an export answers what arrives in two states alike: with the same failure, or
with results that are the same but for their identities. -/
def AnswersAlike (caller : FunctionCaller) (context : ExportContext) (params : Option CellArray)
    (w w' : World) : Prop :=
  ∀ f args args' found found', (w.objects.resolve? context.handle).bind Object.function? = some f →
    decodeArguments context params w = (.ok args, found) →
    decodeArguments context params w' = (.ok args', found') →
    (caller f args' found').1.map (List.map Value.nameless) =
      (caller f args found).1.map (List.map Value.nameless)

/-- A dispatch goes alike in two states: the same arguments arrive, but for which handles of other
runtimes they hold, and if the function answers them alike the dispatches are the same. -/
structure DispatchesAlike (caller : FunctionCaller) (shape : CallShape) (context : ExportContext)
    (b : CallBuffer) (slot : ErrorSlot) (w w' : World) : Prop where
  arguments : (decodeArguments context (b.part shape).params? w').1.map (List.map Value.anonymous) =
    (decodeArguments context (b.part shape).params? w).1.map (List.map Value.anonymous)
  answer : AnswersAlike caller context (b.part shape).params? w w' →
    (dispatch caller shape (some context) (b.part shape) slot w').SameButMinted
      (dispatch caller shape (some context) (b.part shape) slot w)

/-- What a dispatch that failed leaves behind apart from its return values. -/
structure LeftBehind (prog : Program) (f : NativeFunction) (context : ExportContext) (b : CallBuffer)
    (halt : Halt) (base : World) (touched : Nat → Prop) (d : Dispatched) : Prop where
  /-- A message is set. -/
  message : ∃ text, halt.message? = some text ∧ d.slot = .ok (some (blankNuls text))
  /-- The parameters are as they were. -/
  params : d.part.params? = (b.part f.shape).params?
  /-- More ids and addresses are given out, and nothing else changed after the body. -/
  world : base.GrowsTo touched d.world
  /-- The next dispatch goes as it would have gone without this one, if it asks for no id that was
  touched by it. -/
  next : ∀ (depth : Nat) (b' : CallBuffer) (slot : ErrorSlot),
    (∀ id ∈ context.handle :: (b'.part f.shape).ids, ¬ touched id) →
    DispatchesAlike (callFunction prog depth) f.shape context b' slot base d.world

/-! ## 3. Dispatches as answers -/

section Parts

variable (b : CallBuffer) (shape : CallShape)

theorem params?_partOver (r : Answered Unit) (part : CallPart) :
    (r.partOver part).params? = part.params? := by
  rw [Answered.partOver]
  cases r.retvals with
  | none => rfl
  | some a => exact part.params?_withRetvals a

/-- Return values that were not written are left as they were. -/
theorem partOver_untouched {r : Answered Unit}
    (untouched : r.retvals = if shape.hasRetvals then some b.retvals else none) :
    r.partOver (b.part shape) = b.part shape := by
  rw [Answered.partOver, untouched]
  cases shape <;> rfl

theorem retvals?_partOver (r : Answered Unit) :
    (r.partOver (b.part shape)).retvals? =
      if shape.hasRetvals then some (r.retvals.getD b.retvals) else none := by
  rw [Answered.partOver]
  cases r.retvals <;> cases shape <;> rfl

end Parts

/-! ## 4. Decoding -/

section Decoding

variable (context : ExportContext) (params : Option CellArray)

/-- Either nothing is decoded, or the cells are, and no slot is left over. -/
theorem decodeArguments_eq :
    (∀ w, decodeArguments context params w = (.ok [], w)) ∨
      ∃ a, params = some a ∧ ∀ w, decodeArguments context params w =
        let row := Cell.decodeRow w a.cells [] 0 w.supply
        (row.1.mapError Stop.reason, { w with supply := row.2 }) := by
  unfold decodeArguments
  cases params with
  | none => exact .inl fun w => rfl
  | some a =>
    by_cases takes : context.params > 0
    · refine .inr ⟨a, rfl, fun w => ?_⟩
      have decoded := w.decode_eq a.cells a.length
      simp only [if_pos takes]
      generalize Cell.decodeRow w a.cells [] 0 w.supply = row at decoded ⊢
      obtain ⟨stop | vs, used⟩ := row
      · simp only at decoded
        rw [decoded]
        rfl
      · simp only [CellArray.length, Nat.sub_self, List.replicate_zero, List.append_nil] at decoded
        rw [CellArray.length, decoded]
        rfl
    · exact .inl fun w => if_neg takes

/-- Decoding the arguments changes nothing but the next identity. -/
theorem supply_decodeArguments (w : World) :
    ∃ supply, w.supply ≤ supply ∧ (decodeArguments context params w).2 = { w with supply } := by
  rcases decodeArguments_eq context params with nothing | ⟨a, -, decoded⟩
  · exact ⟨w.supply, Nat.le_refl _, congrArg Prod.snd (nothing w)⟩
  · exact ⟨_, Cell.supply_decodeRow w (fun c _ => Cell.supply_decode w c) [] 0 w.supply,
      congrArg Prod.snd (decoded w)⟩

variable {params}

/-- Arguments that cannot be decoded are told with an error. -/
theorem error_of_decodeArguments {w found : World} {halt : Halt}
    (refused : decodeArguments context params w = (.error halt, found)) : ∃ e, halt = .error e := by
  rcases decodeArguments_eq context params with nothing | ⟨a, -, decoded⟩
  · rw [nothing] at refused
    cases refused
  · have told := Cell.decodeRow_told (w := w) (fun c (_ : c ∈ a.cells) => Cell.decode_told c) [] 0
      w.supply
    rw [decoded] at refused
    generalize Cell.decodeRow w a.cells [] 0 w.supply = row at refused told
    obtain ⟨stop | vs, used⟩ := row
    · obtain ⟨before, c, behind, -, -, fault⟩ := told
      obtain rfl : stop.reason = halt := Except.error.inj (congrArg Prod.fst refused)
      exact fault.error
    · cases refused

/-- **The same arguments arrive** from states where the ids in the parameters stand for the same. -/
theorem decodeArguments_alike {w w' : World} (part : CallPart) (agrees : w.AgreesOn part.ids w') :
    (decodeArguments context part.params? w').1.map (List.map Value.anonymous) =
      (decodeArguments context part.params? w).1.map (List.map Value.anonymous) := by
  rcases decodeArguments_eq context part.params? with nothing | ⟨a, given, decoded⟩
  · rw [nothing, nothing]
  · rw [CallPart.ids, given] at agrees
    have same := Cell.decodeRow_alike agrees [] 0 w.supply w'.supply
    rw [decoded, decoded]
    generalize Cell.decodeRow w a.cells [] 0 w.supply = row at same ⊢
    generalize Cell.decodeRow w' a.cells [] 0 w'.supply = row' at same ⊢
    obtain ⟨stop | vs, used⟩ := row <;> obtain ⟨stop' | vs', used'⟩ := row'
    · obtain rfl : stop' = stop := Except.error.inj same
      rfl
    · cases same
    · cases same
    · exact congrArg Except.ok (Except.ok.inj same)

end Decoding

/-! ## 5. Answers that are alike -/

/-- The same outcome, and the same return values but for what was minted. -/
structure Answered.SameButMinted (r r' : Answered Unit) : Prop where
  outcome : r.outcome = r'.outcome
  retvals : r.retvals.map CellArray.anonymous = r'.retvals.map CellArray.anonymous

section Alike

variable {shape : CallShape} {context : ExportContext} {b : CallBuffer} {w w' : World}

theorem Answered.SameButMinted.dispatched {r r' : Answered Unit} (same : r.SameButMinted r')
    (slot : ErrorSlot) :
    Dispatched.SameButMinted ⟨r.slotOver slot, r.partOver (b.part shape), r.world⟩
      ⟨r'.slotOver slot, r'.partOver (b.part shape), r'.world⟩ where
  slot := by simp only [slotOver, same.outcome]
  params := by rw [params?_partOver, params?_partOver]
  retvals := by
    rw [retvals?_partOver, retvals?_partOver]
    split
    · have shown := Option.getD_map CellArray.anonymous b.retvals
      rw [Option.map_some, Option.map_some, ← shown, ← shown, same.retvals]
    · rfl

/-- Results that differ in their identities are constructed alike. -/
theorem constructResults_alike {f : NativeFunction} {results results' : List Value}
    (same : results'.map Value.nameless = results.map Value.nameless)
    (count : results.length = f.retvals.length) (retvals : Option CellArray) :
    (constructResults context f results' retvals w').SameButMinted
      (constructResults context f results retvals w) := by
  by_cases returns : context.retvals > 0
  · cases retvals with
    | none =>
      simp only [constructResults, if_pos returns]
      exact ⟨rfl, rfl⟩
    | some a =>
      have nameless : ValueSource.nameless ⟨results', f.retvals⟩ =
          ValueSource.nameless ⟨results, f.retvals⟩ := by
        rw [ValueSource.nameless, ValueSource.nameless, same]
      have enough : f.retvals.length ≤ results'.length := by
        have length := congrArg List.length same
        rw [List.length_map, List.length_map] at length
        omega
      obtain ⟨outcome, array⟩ := ValueSource.construct_alike nameless enough a w' w
      rw [constructResults_some returns, constructResults_some returns]
      exact ⟨congrArg (Except.mapError Stop.reason) outcome, congrArg some array⟩
  · simp only [constructResults, if_neg returns]
    exact ⟨rfl, rfl⟩

/-- **Answers are alike** from states where the ids that are looked up stand for the same. -/
theorem answerPart_alike {caller : FunctionCaller}
    (counted : ∀ f args results found later, caller f args found = (.ok results, later) →
      results.length = f.retvals.length)
    (agrees : w.AgreesOn (context.handle :: (b.part shape).ids) w')
    (answers : AnswersAlike caller context (b.part shape).params? w w') :
    (answerPart caller shape context b w').SameButMinted (answerPart caller shape context b w) := by
  obtain ⟨named, inside⟩ := List.forall_mem_cons.mp agrees
  have arguments := decodeArguments_alike context (b.part shape) inside
  rw [AnswersAlike] at answers
  rw [CallBuffer.params?_part] at arguments answers
  rw [answerPart, answerPart, answerCall, answerCall]
  simp only [named]
  cases registered : (w.objects.resolve? context.handle).bind Object.function? with
  | none => exact ⟨rfl, rfl⟩
  | some f =>
    simp only
    have answered := answers f
    generalize decodeArguments context (if shape.hasParams then some b.params else none) w = decoded
      at arguments answered ⊢
    generalize decodeArguments context (if shape.hasParams then some b.params else none) w' = decoded'
      at arguments answered ⊢
    obtain ⟨halt | args, found⟩ := decoded <;> obtain ⟨halt' | args', found'⟩ := decoded'
    · obtain rfl : halt' = halt := Except.error.inj arguments
      exact ⟨rfl, rfl⟩
    · cases arguments
    · cases arguments
    · have alike := answered args args' found found' registered rfl rfl
      rcases ran : caller f args found with ⟨halt | results, later⟩ <;>
        rcases ran' : caller f args' found' with ⟨halt' | results', later'⟩ <;>
        simp only [ran, ran'] at alike ⊢
      · obtain rfl : halt' = halt := Except.error.inj alike
        exact ⟨rfl, rfl⟩
      · cases alike
      · cases alike
      · exact constructResults_alike (Except.ok.inj alike) (counted f args results found later ran) _

/-- **The next dispatch goes alike**, too. -/
theorem dispatch_alike {prog : Program} {depth : Nat} (slot : ErrorSlot)
    (agrees : w.AgreesOn (context.handle :: (b.part shape).ids) w') :
    DispatchesAlike (callFunction prog depth) shape context b slot w w' where
  arguments := decodeArguments_alike context _ fun id mem => agrees id (List.mem_cons_of_mem _ mem)
  answer answers := by
    have alike := answerPart_alike (fun f args results found later ran =>
      length_of_callFunction (by rw [ran])) agrees answers
    rw [dispatch_eq, dispatch_eq]
    exact alike.dispatched slot

end Alike

/-! ## 6. Failures before the results -/

section Failed

variable {prog : Program} {depth : Nat} {f : NativeFunction} {context : ExportContext}
  {b : CallBuffer} {w base : World} {halt : Halt}

/-- What an answer that failed leaves behind. -/
theorem leftBehind_of_answer {r : Answered Unit} (failed : r.outcome = .error halt) {text : String}
    (told : halt.message? = some text) {touched : Nat → Prop} (grows : base.GrowsTo touched r.world)
    (agrees : ∀ ids : List Nat, (∀ id ∈ ids, ¬ touched id) → base.AgreesOn ids r.world)
    (slot : ErrorSlot) :
    LeftBehind prog f context b halt base touched
      ⟨r.slotOver slot, r.partOver (b.part f.shape), r.world⟩ where
  message := ⟨text, told, by simp only [Answered.slotOver, failed, told]⟩
  params := params?_partOver r _
  world := grows
  next _ _ slot untouched := dispatch_alike slot (agrees _ untouched)

/-- **A dispatch that fails early** has written no return value, and the state is the one that the body
left.  If the body was not run, identities may have been taken for the arguments. -/
theorem answerPart_of_failsEarly (live : context.Live f w)
    (fails : FailsEarly prog depth f context (b.part f.shape).params? w halt base) :
    (∃ text, halt.message? = some text) ∧
      ∃ supply, base.supply ≤ supply ∧ (supply = base.supply ∨ base = w) ∧
      answerPart (callFunction prog (depth + 1)) f.shape context b w =
        ⟨.error halt, if f.shape.hasRetvals then some b.retvals else none, { base with supply }⟩ := by
  have params := b.params?_part f.shape
  have telling : ∀ e : BridgeError, ∃ text, (Halt.error e).message? = some text := fun e => ⟨_, rfl⟩
  -- what is decoded reaches the function, and its failure is passed on
  have passed : ∀ {args found after}, decodeArguments context (b.part f.shape).params? w =
      (.ok args, found) → callFunction prog (depth + 1) f args found = (.error halt, after) →
      answerPart (callFunction prog (depth + 1)) f.shape context b w =
        ⟨.error halt, if f.shape.hasRetvals then some b.retvals else none, after⟩ := by
    intro args found after decoded failed
    rw [params] at decoded
    exact (answerPart_eq live.registered decoded _).1 halt after failed
  cases fails with
  | undecoded refused =>
    obtain ⟨e, rfl⟩ := error_of_decodeArguments context refused
    obtain ⟨supply, more, after⟩ := supply_decodeArguments context (b.part f.shape).params? w
    refine ⟨telling e, supply, more, .inr rfl, ?_⟩
    rw [refused] at after
    obtain rfl := after
    rw [params] at refused
    simp only [answerPart, answerCall, live.registered, refused]
  | @argCount args found decoded other =>
    obtain ⟨supply, more, after⟩ := supply_decodeArguments context (b.part f.shape).params? w
    rw [decoded] at after
    refine ⟨telling _, supply, more, .inr rfl, ?_⟩
    rw [← after]
    exact passed decoded (by rw [callFunction_eq, if_pos other])
  | body failed told =>
    obtain ⟨args, found, decoded, count, ran⟩ := failed
    refine ⟨?_, base.supply, Nat.le_refl _, .inl rfl, passed decoded ?_⟩
    · cases halt with
      | error e => exact telling e
      | panic p => exact ⟨_, rfl⟩
      | tooDeep => exact absurd rfl told
    · rw [callFunction_eq, if_neg (not_not.mpr count), ran]
  | @resultCount results _ answered other =>
    obtain ⟨args, found, decoded, count, ran⟩ := answered
    refine ⟨telling _, base.supply, Nat.le_refl _, .inl rfl, passed decoded ?_⟩
    rw [callFunction_eq, if_neg (not_not.mpr count), ran]
    simp only [NativeFunction.checkResults, if_pos other]

end Failed

/-! ## 7. Results that cannot be constructed -/

section Stopped

variable {src : ValueSource} (declared : src.declared.length ≤ src.values.length)
include declared

/-- Construction at a position fails with an error that names the position, whatever the cell is. -/
theorem stepAt_failed {i : Nat} {c : Cell} {w : World} {stop : Stop}
    (failed : (src.stepAt i c w ()).outcome = .error stop) :
    (∃ e, stop.reason = .error e) ∧ stop.path.head? = some i ∧
      ∀ v, src.values[i]? = some v →
        ∀ old w, (v.buildTop i src.declared[i]? old w).outcome = .error stop := by
  rcases ValueSource.stepAt_cases declared i with ⟨v, found, step⟩ | ⟨nowhere, step⟩
  · rw [step, Value.buildTop_checked] at failed
    obtain ⟨before, e, behind, checks, -, reason⟩ := Checks.exists_first failed
    obtain ⟨⟨inner, place⟩, -⟩ := Value.blames_checksTop
      (checks ▸ List.mem_append_right before List.mem_cons_self)
    have place : stop.path = i :: inner := place
    refine ⟨⟨e, reason⟩, by rw [place, List.head?_cons], fun u value old w => ?_⟩
    obtain rfl : v = u := Option.some.inj (found.symm.trans value)
    rw [Value.buildTop_checked, failed]
  · rw [step] at failed
    obtain rfl := Except.error.inj failed
    exact ⟨⟨_, rfl⟩, rfl, fun v value => by rw [nowhere] at value; cases value⟩

/-- **Where construction stops.**  It does so at one index, with an error, and what the cells up to there
owned is freed. -/
theorem filledUpTo_of_construct {a : CellArray} {later : World} {stop : Stop}
    (stopped : (src.construct a later).1 = .error stop) :
    (∃ e, stop.reason = .error e) ∧
      ∃ k, src.FilledUpTo k a (src.construct a later).2.1 later stop ∧
        later.GrowsTo (later.FreedWith (a.cells.take (k + 1))) (src.construct a later).2.2 := by
  rw [ValueSource.construct_eq] at stopped ⊢
  obtain ⟨k, old, found, front, failed, whole⟩ := buildRow_stop stopped
  rw [Nat.zero_add] at failed whole
  obtain ⟨inside, rfl⟩ := List.getElem?_eq_some_iff.mp found
  have taken : (a.cells.take k).length = k := List.length_take_of_le (by omega)
  have length : (buildRow src.stepAt 0 (a.cells.take k) later ()).built.length = k := by
    rw [(buildRow_step front).1, taken]
  -- there is a value for each cell in front
  have enough : k ≤ src.values.length := by
    have filled : (src.construct { a with cells := a.cells.take k } later).1 = .ok () := front
    have fits := ValueSource.length_le_of_construct filled declared
    rwa [taken] at fits
  obtain ⟨reason, place, here⟩ := stepAt_failed declared failed
  refine ⟨reason, k, ⟨inside, place, ?_, here, ?_, rfl, ?_⟩, ?_⟩
  · rw [ValueSource.front_alone taken enough a later]
    refine ⟨front, ?_⟩
    simp only [whole]
    rw [List.take_append_of_le_length (by omega), List.take_of_length_le (by omega)]
  · simp only [whole]
    rw [List.drop_append, length, List.drop_of_length_le (by omega)]
    simp
  · simp only [whole, List.length_append, List.length_cons, List.length_drop, length]
    omega
  · simp only [whole]
    have front : later.GrowsTo (later.FreedWith (a.cells.take (k + 1)))
        (buildRow src.stepAt 0 (a.cells.take k) later ()).world :=
      grows_buildRow declared (fun id gone => gone.mono (List.take_subset_take_left _ (by omega)))
        (GrowsTo.refl later _) 0
    have here : [a.cells[k]] ⊆ a.cells.take (k + 1) := by
      rw [List.take_succ_eq_append_getElem inside]
      exact List.subset_append_right _ _
    exact grows_stepAt (fun id gone => gone.mono here) declared front k _

end Stopped

/-! ## 8. The dispatch -/

/-- **A failed dispatch leaves the return values alone.**  If it fails before a result is constructed, no
part of the buffer changes, and the process is as the body left it; if the body was not run, nothing but
the next identity changes.  If it fails at a result, the results before it are in their cells, the cells
behind it are as they were, and of the process nothing changes after the body but for what is minted, and
what the cells up to there owned.  In both cases a message is set, the parameters are as they were, and
the next dispatch goes as it would have gone: without condition after the early failures, and after the
others unless it asks for an id that was minted for the results or freed with those cells. -/
theorem failed_dispatch (prog : Program) (depth : Nat) (f : NativeFunction) (context : ExportContext)
    (w : World) (live : context.Live f w) (b : CallBuffer) (slot : ErrorSlot) :
    let params := (b.part f.shape).params?
    let d := dispatch (callFunction prog (depth + 1)) f.shape (some context) (b.part f.shape) slot w
    (∀ halt base, FailsEarly prog depth f context params w halt base →
      d.part = b.part f.shape ∧ d.world = { base with supply := d.world.supply } ∧
        (d.world = base ∨ base = w) ∧ LeftBehind prog f context b halt base (fun _ => False) d) ∧
    ∀ results later stop, BodyAnswers prog depth f context params w (.ok results) later →
      results.length = f.retvals.length → f.retvals ≠ [] →
      (ValueSource.construct ⟨results, f.retvals⟩ b.retvals later).1 = .error stop →
      ∃ k after, d.part.retvals? = some after ∧
        ValueSource.FilledUpTo ⟨results, f.retvals⟩ k b.retvals after later stop ∧
        LeftBehind prog f context b stop.reason later
          (later.Touched (b.retvals.cells.take (k + 1)) d.world) d := by
  intro params d
  have dispatched : d = _ := dispatch_eq _ f.shape context b slot w
  rw [dispatched]
  refine ⟨fun halt base fails => ?_, fun results later stop answered count some_ stopped => ?_⟩
  · obtain ⟨⟨text, told⟩, supply, more, still, answer⟩ := answerPart_of_failsEarly live fails
    rw [answer]
    refine ⟨partOver_untouched b f.shape rfl, rfl, still.imp_left fun same => ?_, ?_⟩
    · simp only [same]
    · have grows : base.GrowsTo (fun _ => False) { base with supply } :=
        (GrowsTo.refl base _).setSupply more
      exact leftBehind_of_answer (r := ⟨.error halt, _, { base with supply }⟩) rfl told grows
        (fun _ _ _ _ => rfl) slot
  · obtain ⟨args, found, decoded, arguments, ran⟩ := answered
    have returns : context.retvals > 0 := by
      rw [live.retvals]
      exact List.length_pos_iff.mpr some_
    have shape : f.shape.hasRetvals = true := f.hasRetvals_shape.mpr some_
    have called : callFunction prog (depth + 1) f args found = (.ok results, later) := by
      rw [callFunction_eq, if_neg (not_not.mpr arguments), ran]
      simp only [NativeFunction.checkResults, if_neg (not_not.mpr count)]
    have reads : decodeArguments context (if f.shape.hasParams then some b.params else none) w =
        (.ok args, found) := b.params?_part f.shape ▸ decoded
    have answer := (answerPart_eq live.registered reads _).2 results later called
    rw [shape, if_pos rfl, constructResults_some returns] at answer
    obtain ⟨⟨e, reason⟩, k, filled, grows⟩ :=
      filledUpTo_of_construct (Nat.le_of_eq count.symm) stopped
    rw [answer]
    have told : stop.reason.message? = some e.message := by rw [reason]; rfl
    refine ⟨k, _, ?_, filled, leftBehind_of_answer ?_ told (grows.mono fun id => .inl)
      (fun _ => grows.agreesOn) slot⟩
    · rw [retvals?_partOver, shape, if_pos rfl, Option.getD_some]
    · simp only [stopped, Except.mapError]

/-- A function without parameters that declares a number, a text and a truth value. -/
def threeResults : NativeFunction :=
  ⟨0, "three", [], [.ofTag (.ofKind (.int .int64)), .ofTag (.ofKind (.string .w8)),
    .ofTag (.ofKind .bool)]⟩

/-- A program whose functions all do the same. -/
def doing (action : Action) : Program where
  body _ _ := action
  remote _ part w := ⟨none, part, w⟩

/-- Three cells that were used before. -/
def threeUsedCells : CallBuffer where
  params := {}
  retvals := { cells := List.replicate 3 (.ofText .w8 "used") }

/-- A number, a text that cannot be constructed, and a truth value. -/
def brokenResults : List Value :=
  [.scalar (.int .int64 (Fixed.wrap .int64 1)), .string .w8 "\x00", .scalar (.bool true)]

/-- Where the text cannot be constructed, the number is in the first cell and the third one is as it was.
A panic leaves all three. -/
theorem failed_dispatch_threeResults :
    let w := (World.exportFunction {} threeResults).2
    let part := threeUsedCells.part threeResults.shape
    let call := fun action => dispatch (callFunction (doing action) 1) threeResults.shape
      (some ⟨1, 0, 3⟩) part none w
    ExportContext.Live ⟨1, 0, 3⟩ threeResults w ∧
      (∃ after, (call (.done brokenResults)).part.retvals? = some after ∧
        (after.cells.take 1).map Cell.scalar? = [some (.int .int64 (Fixed.wrap .int64 1))] ∧
        after.cells.drop 2 = [.ofText .w8 "used"]) ∧
      (call (.panic (.text "boom"))).part = part := by
  have live : ExportContext.Live ⟨1, 0, 3⟩ threeResults (World.exportFunction {} threeResults).2 :=
    ⟨rfl, rfl, rfl⟩
  refine ⟨live, ?_, ?_⟩
  · obtain ⟨k, after, given, filled, -⟩ := (failed_dispatch (doing (.done brokenResults)) 0 threeResults
      ⟨1, 0, 3⟩ _ live threeUsedCells none).2 brokenResults _
      ⟨.error (.marshal (.interiorNul (.path [1]))), [1]⟩ ⟨[], _, rfl, rfl, rfl⟩ rfl (by decide) rfl
    obtain rfl : k = 1 := by simpa [eq_comm] using filled.place
    refine ⟨after, given, ?_, filled.behind⟩
    rw [filled.front.2]
    rfl
  · exact ((failed_dispatch (doing (.panic (.text "boom"))) 0 threeResults ⟨1, 0, 3⟩ _ live
      threeUsedCells none).1 _ _ (.body ⟨[], _, rfl, rfl, rfl⟩ (by simp))).1

/-- An export that was made for a cell, and return values with that cell in front. -/
def ownExport : CallPoint × World :=
  World.exportForCell {} threeResults

def ownCellFirst : CallBuffer where
  params := {}
  retvals :=
    { cells := .ofCallable ⟨some ownExport.1, [], []⟩ :: List.replicate 2 (.ofText .w8 "used") }

/-- **A dispatch may free the export that it came through**: the cell that the export was made for is the
first of the return values, and is overwritten with the first result.  The second result cannot be
constructed, and the next dispatch finds no function. -/
theorem next_dispatch_unlike :
    let context : ExportContext := ⟨1, 0, 3⟩
    let call := fun (b : CallBuffer) w => dispatch (callFunction (doing (.done brokenResults)) 1)
      threeResults.shape (some context) (b.part threeResults.shape) none w
    let later := ownExport.2.recordRun 0
    let d := call ownCellFirst ownExport.2
    context.Live threeResults ownExport.2 ∧
      BodyAnswers (doing (.done brokenResults)) 0 threeResults context none ownExport.2
        (.ok brokenResults) later ∧
      d.slot = .ok (some "string at [1] contains an interior NUL") ∧
      (call threeUsedCells later).slot = .ok (some "string at [1] contains an interior NUL") ∧
      (call threeUsedCells d.world).slot = .ok (some "callable handle 1 is no longer registered") ∧
      ¬ DispatchesAlike (callFunction (doing (.done brokenResults)) 1) threeResults.shape context
        threeUsedCells none later d.world := by
  intro context call later d
  have told : (call threeUsedCells later).slot =
      .ok (some "string at [1] contains an interior NUL") := by decide +kernel
  have refused : (call threeUsedCells d.world).slot =
      .ok (some "callable handle 1 is no longer registered") := by decide +kernel
  refine ⟨⟨rfl, rfl, rfl⟩, ⟨[], _, rfl, rfl, rfl⟩, by decide +kernel, told, refused, fun alike => ?_⟩
  have answers : AnswersAlike (callFunction (doing (.done brokenResults)) 1) context none later
      d.world := by
    intro f args args' found found' registered decoded decoded'
    obtain rfl : threeResults = f := Option.some.inj registered
    cases decoded
    cases decoded'
    rfl
  have same := refused.symm.trans ((alike.answer answers).slot.trans told)
  revert same
  decide

end RuntimeBridge
