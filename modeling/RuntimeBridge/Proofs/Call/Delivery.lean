/-
# Which results arrive

A function of this runtime is called with a buffer that the caller laid out.  Three numbers meet in such
a call: how many return values the function declares, how many results its body gave, and how many cells
there are for them.  The first two are compared; the cells are not counted by anyone.  Construction goes
by the cells: with too many of them it comes to one that has no result, and fails; with too few it stops
in time, and the results behind are dropped without a word.  A function that declares no return values
is not given the cells at all.

So where a call reports success over as many cells as are declared, every result is in its cell
(`delivered_of_construct`); and a call through an entity or through the host keeps all results unless it
is answered over too few cells, or over any cells for a function without return values.

Main statement: `results_kept_iff`.
-/
import RuntimeBridge.Proofs.Call.Routes
import RuntimeBridge.Proofs.Wire.Rows
namespace RuntimeBridge

/-! ## 1. Cells and results -/

/-- There are as many cells as declared return values, and each is what its result made of the cell that
was there before. -/
structure Delivered (f : NativeFunction) (results : List Value) (before after : List Cell) : Prop where
  count : results.length = f.retvals.length
  length : after.length = f.retvals.length
  each : ∀ i < f.retvals.length, ∃ v old w, results[i]? = some v ∧ before[i]? = some old ∧
    (v.buildTop i f.retvals[i]? old w).outcome = .ok () ∧
    after[i]? = some (v.buildTop i f.retvals[i]? old w).built

namespace ValueSource

variable {src : ValueSource}

/-- **More cells than values are not filled.** -/
theorem length_le_of_construct {a : CellArray} {w : World} (ok : (src.construct a w).1 = .ok ())
    (declared : src.declared.length ≤ src.values.length) : a.cells.length ≤ src.values.length := by
  by_contra more
  rw [construct_eq] at ok
  obtain ⟨-, each⟩ := buildRow_step ok
  have inside : src.values.length < a.cells.length := by omega
  obtain ⟨w', s', built, -⟩ := each _ _ (List.getElem?_eq_getElem inside)
  rw [Nat.zero_add, stepAt_missing (List.getElem?_eq_none (Nat.le_refl _))
    (List.getElem?_eq_none declared)] at built
  cases built

/-- **Every cell that is filled is filled with its value.** -/
theorem cells_of_construct {a : CellArray} {w : World} (ok : (src.construct a w).1 = .ok ()) :
    (src.construct a w).2.1.cells.length = a.cells.length ∧
      ∀ i (v : Value) old, src.values[i]? = some v → a.cells[i]? = some old →
        ∃ w', (v.buildTop i src.declared[i]? old w').outcome = .ok () ∧
          (src.construct a w).2.1.cells[i]? = some (v.buildTop i src.declared[i]? old w').built := by
  rw [construct_eq] at ok ⊢
  obtain ⟨length, each⟩ := buildRow_step ok
  refine ⟨length, fun i v old value cell => ?_⟩
  obtain ⟨w', s', built, found⟩ := each i old cell
  rw [Nat.zero_add, stepAt_eq value] at built found
  exact ⟨w', built, found⟩

end ValueSource

/-- **Results that were constructed over as many cells are delivered.** -/
theorem delivered_of_construct {f : NativeFunction} {results : List Value} {a : CellArray} {w : World}
    (count : results.length = f.retvals.length) (cells : a.cells.length = f.retvals.length)
    (ok : (ValueSource.construct ⟨results, f.retvals⟩ a w).1 = .ok ()) :
    Delivered f results a.cells (ValueSource.construct ⟨results, f.retvals⟩ a w).2.1.cells := by
  obtain ⟨length, each⟩ := ValueSource.cells_of_construct ok
  refine ⟨count, length.trans cells, fun i inside => ?_⟩
  have value := List.getElem?_eq_getElem (show i < results.length by omega)
  have cell := List.getElem?_eq_getElem (show i < a.cells.length by omega)
  obtain ⟨w', built, found⟩ := each i _ _ value cell
  exact ⟨_, _, w', value, cell, built, found⟩

/-! ## 2. Calls -/

/-- The function is reached through the route and gives these results, in this state. -/
def Route.Answers (route : Route) (f : NativeFunction) (caller : FunctionCaller)
    (results : List Value) (later : World) : Prop :=
  ∃ args found, route.Reaches f args found ∧ caller f args found = (.ok results, later)

/-- No result is lost: a call that reports success leaves every result in its cell, and over another
number of cells than return values are declared no call reports success. -/
structure Route.KeepsResults (route : Route) (f : NativeFunction) (caller : FunctionCaller)
    (b : CallBuffer) : Prop where
  delivered : (route caller).ending = .ok none → ∃ results later,
    route.Answers f caller results later ∧
      Delivered f results b.retvals.cells (route caller).buffer.retvals.cells
  refused : b.retvals.length ≠ f.retvals.length → (route caller).ending ≠ .ok none

/-- Results that are dropped without an error: there are too few cells for them, and those that there are
could be filled; or there are cells for a function without return values. -/
def Drops (f : NativeFunction) (b : CallBuffer) (results : List Value) (later : World) : Prop :=
  f.retvals = [] ∧ b.retvals.cells ≠ [] ∨
    b.retvals.length < f.retvals.length ∧
      (ValueSource.construct ⟨results, f.retvals⟩ b.retvals later).1 = .ok ()

theorem Route.Answers.unique {route : Route} {f : NativeFunction} {caller : FunctionCaller}
    {args : List Value} {found : World} (reaches : route.Reaches f args found) {results : List Value}
    {later : World} (answers : route.Answers f caller results later) :
    caller f args found = (.ok results, later) := by
  obtain ⟨args', found', reaches', answered⟩ := answers
  obtain ⟨-, rfl, rfl⟩ := reaches.unique reaches'
  exact answered

section

variable {f : NativeFunction} {id : Nat} {b : CallBuffer} {w : World} {caller : FunctionCaller}

/-- What the dispatcher of a function leaves to a caller with a buffer. -/
def dispatched (f : NativeFunction) (id : Nat) (b : CallBuffer) (w : World) : Route := fun caller =>
  (dispatch caller f.shape (some ⟨id, f.params.length, f.retvals.length⟩) (b.part f.shape) none w).seen b

/-- A call reports success just when the dispatcher succeeded. -/
theorem ending_dispatched :
    (dispatched f id b w caller).ending = .ok none ↔
      (answerPart caller f.shape ⟨id, f.params.length, f.retvals.length⟩ b w).outcome = .ok () := by
  rw [dispatched, dispatch_part, Dispatched.seen, Answered.leave]
  cases (answerPart caller f.shape ⟨id, f.params.length, f.retvals.length⟩ b w).outcome with
  | ok => simp [endingOf, Except.map]
  | error halt =>
    simp only [endingOf]
    cases halt.message? <;> simp [Except.map, slotMessage_eq]

theorem buffer_dispatched :
    (dispatched f id b w caller).buffer = b.answered f.shape
      (answerPart caller f.shape ⟨id, f.params.length, f.retvals.length⟩ b w).retvals := by
  rw [dispatched, dispatch_part, Dispatched.seen, Answered.leave]
  cases (answerPart caller f.shape ⟨id, f.params.length, f.retvals.length⟩ b w).retvals with
  | none => exact b.withPart_part f.shape
  | some a => exact b.withPart_withRetvals f.shape a

/-- A call that fails keeps nothing and loses nothing. -/
theorem keepsResults_of_failed {route : Route} (failed : (route caller).ending ≠ .ok none) :
    route.KeepsResults f caller b :=
  ⟨fun ok => absurd ok failed, fun _ => failed⟩

section Answered

variable {results : List Value} {later : World} (count : results.length = f.retvals.length)
  (answers : (dispatched f id b w).Answers f caller results later)
  (answer : answerPart caller f.shape ⟨id, f.params.length, f.retvals.length⟩ b w =
    constructResults ⟨id, f.params.length, f.retvals.length⟩ f results
      (if f.shape.hasRetvals then some b.retvals else none) later)
include count answers answer

/-- Without return values the cells are left alone. -/
theorem keepsResults_of_nothing (nothing : f.retvals = []) :
    (dispatched f id b w).KeepsResults f caller b ↔ ¬ Drops f b results later := by
  have shape : f.shape.hasRetvals = false := by
    rw [← Bool.not_eq_true, f.hasRetvals_shape, not_not, nothing]
  have answer : answerPart caller f.shape ⟨id, f.params.length, f.retvals.length⟩ b w =
      ⟨.ok (), none, later⟩ := by
    rw [answer, shape]
    simp [constructResults, nothing]
  have success : (dispatched f id b w caller).ending = .ok none := by
    rw [ending_dispatched, answer]
  have buffer : (dispatched f id b w caller).buffer = b := by
    rw [buffer_dispatched, answer]
    rfl
  have drops : Drops f b results later ↔ b.retvals.cells ≠ [] := by simp [Drops, nothing]
  rw [drops, not_not]
  constructor
  · intro keeps
    by_contra cells
    refine keeps.refused ?_ success
    simpa [nothing, CellArray.length] using cells
  · intro cells
    refine ⟨fun _ => ⟨results, later, answers, count, ?_, ?_⟩, fun other => ?_⟩
    · rw [buffer, cells, nothing, List.length_nil, List.length_nil]
    · simp [nothing]
    · simp [nothing, cells, CellArray.length] at other

/-- With return values the cells decide how far construction goes. -/
theorem keepsResults_of_some (some_ : f.retvals ≠ []) :
    (dispatched f id b w).KeepsResults f caller b ↔ ¬ Drops f b results later := by
  have positive : f.retvals.length > 0 := List.length_pos_iff.mpr some_
  have shape : f.shape.hasRetvals = true := f.hasRetvals_shape.mpr some_
  rw [shape, if_pos rfl, constructResults_some positive] at answer
  have drops : Drops f b results later ↔ b.retvals.cells.length < f.retvals.length ∧
      (ValueSource.construct ⟨results, f.retvals⟩ b.retvals later).1 = .ok () := by
    simp [Drops, some_, CellArray.length]
  rw [drops]
  rcases built : ValueSource.construct ⟨results, f.retvals⟩ b.retvals later with
    ⟨stop | done, a, after⟩
  · have failed : (dispatched f id b w caller).ending ≠ .ok none := by
      rw [Ne, ending_dispatched, answer]
      simp [built, Except.mapError]
    exact iff_of_true (keepsResults_of_failed failed) (by simp)
  · have ok : (ValueSource.construct ⟨results, f.retvals⟩ b.retvals later).1 = .ok () := by rw [built]
    have success : (dispatched f id b w caller).ending = .ok none := by
      rw [ending_dispatched, answer]
      simp [built, Except.mapError]
    have buffer : (dispatched f id b w caller).buffer.retvals = a := by
      rw [buffer_dispatched, answer]
      simp [built, CallBuffer.answered, shape]
    have enough : b.retvals.cells.length ≤ f.retvals.length :=
      count ▸ ValueSource.length_le_of_construct ok (by simp [count])
    simp only [and_true, not_lt]
    constructor
    · intro keeps
      by_contra fewer
      exact keeps.refused (by rw [CellArray.length]; omega) success
    · intro full
      have same : b.retvals.cells.length = f.retvals.length := Nat.le_antisymm enough full
      have delivered := delivered_of_construct count same ok
      refine ⟨fun _ => ⟨results, later, answers, ?_⟩, fun other => absurd same other⟩
      rw [buffer]
      rwa [built] at delivered

end Answered

/-- **A call over some cells keeps all results unless it drops some.** -/
theorem keepsResults_dispatched
    (registered : (w.objects.resolve? id).bind Object.function? = some f)
    (counted : ∀ args w results later, caller f args w = (.ok results, later) →
      results.length = f.retvals.length) :
    (dispatched f id b w).KeepsResults f caller b ↔
      ¬ ∃ results later, (dispatched f id b w).Answers f caller results later ∧
        Drops f b results later := by
  let context : ExportContext := ⟨id, f.params.length, f.retvals.length⟩
  rcases decoded : decodeArguments context (if f.shape.hasParams then some b.params else none) w with
    ⟨halt | args, found⟩
  · -- nothing reaches the function
    have failed : (dispatched f id b w caller).ending ≠ .ok none := by
      rw [Ne, ending_dispatched, answerPart, answerCall]
      simp only [registered, context] at decoded ⊢
      simp [decoded]
    refine iff_of_true (keepsResults_of_failed failed) ?_
    rintro ⟨results, later, ⟨args, found', reaches, -⟩, -⟩
    obtain ⟨caller, caller', differ⟩ := reaches.asked
    exact differ (congrArg (Dispatched.seen · b) (dispatch_unreached registered decoded caller caller'))
  · have reaches : (dispatched f id b w).Reaches f args found := reaches_dispatch registered decoded
    obtain ⟨onError, onResults⟩ := answerPart_eq registered decoded caller
    rcases ran : caller f args found with ⟨halt | results, later⟩
    · have failed : (dispatched f id b w caller).ending ≠ .ok none := by
        rw [Ne, ending_dispatched, onError halt later ran]
        simp
      refine iff_of_true (keepsResults_of_failed failed) ?_
      rintro ⟨results, later', answers, -⟩
      exact absurd (ran.symm.trans (answers.unique reaches)) (by simp)
    · have count := counted args found results later ran
      have answers : (dispatched f id b w).Answers f caller results later :=
        ⟨args, found, reaches, ran⟩
      have only : ∀ results' later', (dispatched f id b w).Answers f caller results' later' →
          results' = results ∧ later' = later := by
        intro results' later' answers'
        have same := (answers'.unique reaches).symm.trans ran
        simpa using same
      have drops : (∃ results' later', (dispatched f id b w).Answers f caller results' later' ∧
          Drops f b results' later') ↔ Drops f b results later := by
        refine ⟨?_, fun drops => ⟨results, later, answers, drops⟩⟩
        rintro ⟨results', later', answers', drops⟩
        obtain ⟨rfl, rfl⟩ := only _ _ answers'
        exact drops
      have answer := onResults results later ran
      rw [drops]
      by_cases nothing : f.retvals = []
      · exact keepsResults_of_nothing count answers answer nothing
      · exact keepsResults_of_some count answers answer nothing

end

/-! ## 3. Through an entity and through the host -/

/-- **No result is lost, but for those that are dropped.**  A function is called through an entity that
the thread may call, or through the host's function for its shape, with a buffer of any lengths and any
contents.  Then all results are kept, and another number of cells than return values are declared is an
error, unless the function gives its results over too few cells, all of which could be filled, or over
cells that a function without return values does not ask for. -/
theorem results_kept_iff (h : EntityHandle) (f : NativeFunction) (thread : Nat) (prog : Program)
    (depth : Nat) (w : World) (exports : h.callable.Exports f w)
    (allowed : h.checkThread thread = .ok ()) (b : CallBuffer) (before : ErrorSlot) (route : Route)
    (either : route = h.route thread prog b w ∨
      route = Abi.HostFunction.route prog h.callable.point f.shape before b w) :
    route.KeepsResults f (callFunction prog depth) b ↔
      ¬ ∃ results later, route.Answers f (callFunction prog depth) results later ∧
        Drops f b results later := by
  obtain ⟨⟨id, target, registered⟩, params, retvals⟩ := exports
  have shape : h.callable.shape = f.shape := by
    rw [ForeignCallable.shape, NativeFunction.shape, params, retvals]
  have entity : h.route thread prog b w = dispatched f id b w.pin :=
    funext fun caller => EntityHandle.route_exported caller target b w allowed rfl shape prog
  have host : Abi.HostFunction.route prog h.callable.point f.shape before b w =
      dispatched f id b w.pin :=
    funext fun caller => Abi.HostFunction.route_exported caller target b w prog before
  have same : route = dispatched f id b w.pin := by
    rcases either with rfl | rfl
    · exact entity
    · exact host
  rw [same]
  exact keepsResults_dispatched registered fun args found results later ran =>
    length_of_callFunction (by rw [ran])

/-- A function without parameters that returns two numbers. -/
def twoNumbers : NativeFunction :=
  ⟨0, "pair", [], [.ofTag (.ofKind (.int .int64)), .ofTag (.ofKind (.int .int64))]⟩

/-- A program whose functions return one and two. -/
def oneAndTwo : Program where
  body _ _ := .done [.scalar (.int .int64 (Fixed.wrap .int64 1)),
    .scalar (.int .int64 (Fixed.wrap .int64 2))]
  remote _ part w := ⟨none, part, w⟩

/-- A buffer without parameters and with so many null cells for return values. -/
def emptyCells (n : Nat) : CallBuffer where
  params := {}
  retvals := { cells := List.replicate n .null }

/-- Over two cells both numbers are kept, through the entity and through the host. -/
theorem results_kept_twoNumbers :
    let w := (World.exportFunction {} twoNumbers).2
    let point := (entityFor twoNumbers).callable.point
    ((entityFor twoNumbers).route 0 oneAndTwo (emptyCells 2) w).KeepsResults twoNumbers
        (callFunction oneAndTwo 1) (emptyCells 2) ∧
      (Abi.HostFunction.route oneAndTwo point twoNumbers.shape none (emptyCells 2) w).KeepsResults
        twoNumbers (callFunction oneAndTwo 1) (emptyCells 2) := by
  have kept := results_kept_iff (entityFor twoNumbers) twoNumbers 0 oneAndTwo 1 _
    (exports_entityFor twoNumbers) rfl (emptyCells 2) none
  have nothingDropped : ∀ results later, ¬ Drops twoNumbers (emptyCells 2) results later := by
    simp [Drops, twoNumbers, emptyCells, CellArray.length]
  refine ⟨(kept _ (.inl rfl)).mpr ?_, (kept _ (.inr rfl)).mpr ?_⟩
  · rintro ⟨results, later, -, drops⟩
    exact nothingDropped results later drops
  · rintro ⟨results, later, -, drops⟩
    exact nothingDropped results later drops

/-- **Over one cell the second number is lost**, and the call reports success all the same. -/
theorem results_not_kept :
    let w := (World.exportFunction {} twoNumbers).2
    let caller := callFunction oneAndTwo 1
    let route := (entityFor twoNumbers).route 0 oneAndTwo (emptyCells 1) w
    (entityFor twoNumbers).callable.Exports twoNumbers w ∧
      (route caller).ending = .ok none ∧
      (route caller).buffer.retvals.cells.map Cell.scalar? =
        [some (.int .int64 (Fixed.wrap .int64 1))] ∧
      ¬ route.KeepsResults twoNumbers caller (emptyCells 1) :=
  ⟨exports_entityFor twoNumbers, rfl, rfl, fun keeps => keeps.refused (by decide) rfl⟩

end RuntimeBridge
