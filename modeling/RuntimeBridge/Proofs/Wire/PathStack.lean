/-
# One stack of indices

Construction and traversal need no path for each call.  One stack serves a whole run: the index of an
element is pushed ahead of the element and popped behind it, and where a path is wanted the stack is
read.  A failure returns at once, so nothing is popped on its way out.

Here both are told with such a stack (`Source.constructOn`, `Sink.traverseOn`).  Nothing in these
definitions says that a pop takes off what its push put on; a nested array that left something behind
would shift the paths of all elements after it.  That they do not shift is the induction: an element
gives back the stack with its index on top, so what is popped is that index.

Main statements: `Source.constructOn_eq` and `Sink.traverseOn_eq`, with one stack everything goes as it
does with a path for each call; a success gives the stack back, and a failure leaves it where it stopped.
-/
import RuntimeBridge.Proofs.Wire.Decoding
namespace RuntimeBridge

/-! ## 1. Endings -/

/-- How a run with a stack of indices ended, and the stack as it was left. -/
structure Ending where
  outcome : Outcome Unit
  stack : IndexPath

namespace Ending

/-- The ending as an outcome that names the place of a failure. -/
def named (e : Ending) : Except Stop Unit :=
  match e.outcome with
  | .ok () => .ok ()
  | .error halt => .error ⟨halt, e.stack⟩

/-- An outcome that names the place of a failure as an ending: a success gives the path back, a failure
leaves the stack at the place that it names. -/
def ofNamed (path : IndexPath) : Except Stop Unit → Ending
  | .ok () => ⟨.ok (), path⟩
  | .error stop => ⟨.error stop.reason, stop.path⟩

/-- The ending of a step that reads the stack and leaves it alone. -/
def reading (stack : IndexPath) (r : Except Stop Unit) : Ending :=
  ⟨r.mapError Stop.reason, stack⟩

@[simp] theorem named_ofNamed (path : IndexPath) (r : Except Stop Unit) :
    (ofNamed path r).named = r := by
  rcases r with stop | ⟨⟩ <;> rfl

theorem outcome_ofNamed {path : IndexPath} {r : Except Stop Unit} :
    (ofNamed path r).outcome = .ok () ↔ r = .ok () := by
  rcases r with stop | ⟨⟩ <;> simp [ofNamed]

/-- A step that stops where it is leaves the stack alone. -/
theorem reading_eq {path : IndexPath} {r : Except Stop Unit}
    (here : ∀ stop, r = .error stop → stop.path = path) : reading path r = ofNamed path r := by
  rcases r with stop | ⟨⟩
  · exact congrArg (Ending.mk _) (here stop rfl).symm
  · rfl

end Ending

/-! ## 2. Construction -/

variable {σ τ β : Type}

/-- What a step of construction with a stack leaves. -/
structure BuiltOn (σ β : Type) where
  ending : Ending
  built : β
  world : World
  state : σ

namespace Built

/-- A step that reads the stack and leaves it alone. -/
def reading (stack : IndexPath) (r : Built σ β) : BuiltOn σ β :=
  ⟨.reading stack r.outcome, r.built, r.world, r.state⟩

/-- What a step with a path leaves, as what one with a stack leaves. -/
def onStack (path : IndexPath) (r : Built σ β) : BuiltOn σ β :=
  ⟨.ofNamed path r.outcome, r.built, r.world, r.state⟩

theorem reading_eq {path : IndexPath} {r : Built σ β}
    (here : ∀ stop, r.outcome = .error stop → stop.path = path) : r.reading path = r.onStack path :=
  congrArg (BuiltOn.mk · r.built r.world r.state) (Ending.reading_eq here)

end Built

/-- What a step with a stack leaves, with the place of a failure named. -/
def BuiltOn.named (r : BuiltOn σ β) : Built σ β :=
  ⟨r.ending.named, r.built, r.world, r.state⟩

@[simp] theorem BuiltOn.named_onStack (path : IndexPath) (r : Built σ β) :
    (r.onStack path).named = r := by
  simp [named, Built.onStack]

/-- Build the cells of a row one after the other, up to the first failure: push the index, build the cell,
pop. -/
def buildRowOn (step : Cell → IndexPath → World → σ → BuiltOn σ Cell) :
    Nat → List Cell → IndexPath → World → σ → BuiltOn σ (List Cell)
  | _, [], stack, w, s => ⟨⟨.ok (), stack⟩, [], w, s⟩
  | i, c :: cs, stack, w, s =>
    let here := step c (stack ++ [i]) w s
    match here.ending.outcome with
    | .error halt => ⟨⟨.error halt, here.ending.stack⟩, here.built :: cs, here.world, here.state⟩
    | .ok () =>
      let rest := buildRowOn step (i + 1) cs here.ending.stack.dropLast here.world here.state
      ⟨rest.ending, here.built :: rest.built, rest.world, rest.state⟩

namespace Source

/-- Stop at an element that is an array where none may be; its index is on the stack still. -/
def checkElementOn (is1D : Bool) (r : BuiltOn σ Cell) : BuiltOn σ Cell :=
  match r.ending.outcome with
  | .error _ => r
  | .ok () =>
    if is1D && r.built.tag.isArray then
      { r with ending := ⟨.error (.marshal (.nestedArrayIn1D (.path r.ending.stack))), r.ending.stack⟩ }
    else r

/-- Fill a cell, down to a depth, with the value that the stack leads to. -/
def constructOn (src : Source σ) :
    Nat → Option TypeInfo → Cell → IndexPath → World → σ → BuiltOn σ Cell
  | 0, _, cell, stack, w, s => ⟨⟨.error .tooDeep, stack⟩, cell, w, s⟩
  | depth + 1, declared, cell, stack, w, s =>
    match src.resolveType stack declared s with
    | (.error e, s) => (refuse stack e cell w s).reading stack
    | (.ok info, s) =>
      if info.isAny then
        (refuse stack (.marshal (.unresolvedAny (.path stack))) cell w s).reading stack
      else
        let tag := info.wireTag
        if !tag.isKnown then
          (refuse stack (.marshal (.unknownType tag (.path stack))) cell w s).reading stack
        else if tag.isArray then
          match src.arrayMetadata stack { info with tag } s with
          | (.error e, s) => (refuse stack e cell w s).reading stack
          | (.ok layout, s) =>
            let leaf := arrayLeaf layout.commonType
            let w := w.freeCell cell
            if layout.manual then (constructManual src stack layout leaf w s).reading stack
            else
              let row := buildRowOn
                (fun c stack w s =>
                  checkElementOn layout.is1D (constructOn src depth none c stack w s))
                0 (List.replicate layout.length Cell.null) stack w s
              match row.ending.outcome with
              | .error halt =>
                ⟨⟨.error halt, row.ending.stack⟩, .ofArray leaf row.built mixedDimensions, row.world,
                  row.state⟩
              | .ok () =>
                let dimensions := if layout.is1D then 1 else builtDimensions row.built
                ⟨⟨.ok (), row.ending.stack⟩, .ofArray leaf row.built dimensions, row.world, row.state⟩
        else
          match tag.kind? with
          | some kind => (constructLeaf src stack kind cell w s).reading stack
          | none => (refuse stack (.marshal (.unknownType tag (.path stack))) cell w s).reading stack

variable (src : Source σ)

/-- A leaf stops where it is. -/
theorem path_of_constructLeaf {path : IndexPath} {kind : BaseKind} {cell : Cell} {w : World} {s : σ}
    {stop : Stop} (failed : (src.constructLeaf path kind cell w s).outcome = .error stop) :
    stop.path = path := by
  cases kind <;> simp only [constructLeaf] at failed
  all_goals (repeat' split at failed)
  all_goals cases failed <;> rfl

/-- Filling an array at once stops at the array. -/
theorem path_of_constructManual {path : IndexPath} {layout : ArrayMetadata} {leaf : TypeTag}
    {w : World} {s : σ} {stop : Stop}
    (failed : (src.constructManual path layout leaf w s).outcome = .error stop) :
    stop.path = path := by
  simp only [constructManual] at failed
  split at failed
  · cases failed
    rfl
  · cases failed

theorem checkElementOn_eq (path : IndexPath) (is1D : Bool) (r : Built σ Cell) :
    checkElementOn is1D (r.onStack path) = (checkElement path is1D r).onStack path := by
  obtain ⟨stop | ⟨⟩, built, w, s⟩ := r
  · rfl
  · by_cases misplaced : (is1D && built.tag.isArray) = true
    · simp [checkElementOn, checkElement, Built.onStack, Ending.ofNamed, misplaced]
    · simp [checkElementOn, checkElement, Built.onStack, Ending.ofNamed, misplaced]

/-- **Rows**: an element gives the stack back with its index on top, and so that is what is popped. -/
theorem buildRowOn_eq {stepOn : Cell → IndexPath → World → σ → BuiltOn σ Cell}
    {step : Nat → Cell → World → σ → Built σ Cell} (path : IndexPath)
    (steps : ∀ i c w s, stepOn c (path ++ [i]) w s = (step i c w s).onStack (path ++ [i]))
    (i : Nat) (cells : List Cell) (w : World) (s : σ) :
    buildRowOn stepOn i cells path w s = (buildRow step i cells w s).onStack path := by
  induction cells generalizing i w s with
  | nil => rfl
  | cons c cs ih =>
    simp only [buildRowOn, buildRow, steps]
    rcases step i c w s with ⟨stop | ⟨⟩, built, w', s'⟩
    · rfl
    · simp only [Built.onStack, Ending.ofNamed, List.dropLast_concat]
      rw [ih]
      rfl

/-- **Construction with one stack** goes as construction with a path for each call, gives the stack back
when it succeeds, and leaves it where it stopped otherwise. -/
theorem constructOn_eq (depth : Nat) (path : IndexPath) (declared : Option TypeInfo) (cell : Cell)
    (w : World) (s : σ) :
    src.constructOn depth declared cell path w s =
      (src.constructCell depth path declared cell w s).onStack path := by
  induction depth generalizing path declared cell w s with
  | zero => rfl
  | succ depth ih =>
    simp only [constructOn, constructCell]
    rcases src.resolveType path declared s with ⟨e | info, s⟩
    · rfl
    simp only
    split
    case isTrue => rfl
    split
    case isTrue => rfl
    split
    case isFalse =>
      cases info.wireTag.kind? with
      | none => rfl
      | some kind => exact Built.reading_eq fun stop => src.path_of_constructLeaf
    rcases src.arrayMetadata path { info with tag := info.wireTag } s with ⟨e | layout, s⟩
    · rfl
    simp only
    split
    case isTrue => exact Built.reading_eq fun stop => src.path_of_constructManual
    rw [buildRowOn_eq path fun i c w s => by rw [ih, checkElementOn_eq]]
    generalize buildRow _ 0 _ (w.freeCell cell) s = row
    obtain ⟨stop | ⟨⟩, built, w, s⟩ := row <;> rfl

end Source

/-! ## 3. Traversal -/

namespace Sink

mutual

/-- Decode a cell that the stack leads to and hand it to the sink. -/
def traverseOn (w : World) (sink : Sink τ) : Cell → IndexPath → τ → Ending × τ
  | .plain tag payload owned, stack, t =>
    if tag.isAny then
      (.reading stack (.error ⟨.marshal (.unresolvedAny (.path stack)), stack⟩), t)
    else if tag.isArray then
      (.reading stack (.error ⟨.marshal (.nullArray (.path stack)), stack⟩), t)
    else
      let (r, t) := traverseLeaf w sink (.plain tag payload owned) stack t
      (.reading stack r, t)
  | .array tag items dimensions owned, stack, t =>
    if tag.isAny then
      (.reading stack (.error ⟨.marshal (.unresolvedAny (.path stack)), stack⟩), t)
    else if tag.isArray then
      match sink.onArray stack (shapeOf w sink items dimensions stack t) items t with
      | (.error e, t) => (⟨.error (.error e), stack⟩, t)
      | (.ok false, t) => (⟨.ok (), stack⟩, t)
      | (.ok true, t) => traverseRowOn w sink items 0 stack t
    else
      let (r, t) := traverseLeaf w sink (.array tag items dimensions owned) stack t
      (.reading stack r, t)

/-- Decode the elements of an array from index `i` on: push the index, decode the element, pop. -/
def traverseRowOn (w : World) (sink : Sink τ) : List Cell → Nat → IndexPath → τ → Ending × τ
  | [], _, stack, t => (⟨.ok (), stack⟩, t)
  | c :: cs, i, stack, t =>
    match traverseOn w sink c (stack ++ [i]) t with
    | (⟨.error halt, stack⟩, t) => (⟨.error halt, stack⟩, t)
    | (⟨.ok (), stack⟩, t) => traverseRowOn w sink cs (i + 1) stack.dropLast t

end

variable (w : World) (sink : Sink τ)

/-- A leaf stops where it is. -/
theorem path_of_traverseLeaf {c : Cell} {path : IndexPath} {t : τ} {stop : Stop}
    (failed : (traverseLeaf w sink c path t).1 = .error stop) : stop.path = path := by
  have answered : ∀ {r : Except BridgeError Unit × τ}, (answer path r).1 = .error stop →
      stop.path = path := by
    rintro ⟨e | ⟨⟩, t⟩ failed <;> cases failed
    rfl
  simp only [traverseLeaf] at failed
  repeat' split at failed
  all_goals first
    | exact answered failed
    | cases failed; rfl

theorem traverseLeaf_reading (c : Cell) (path : IndexPath) (t : τ) :
    (Ending.reading path (traverseLeaf w sink c path t).1, (traverseLeaf w sink c path t).2) =
      (Ending.ofNamed path (traverseLeaf w sink c path t).1, (traverseLeaf w sink c path t).2) := by
  rw [Ending.reading_eq fun stop => path_of_traverseLeaf w sink]

/-- **Rows**: as in construction, what is popped is the index that was pushed. -/
theorem traverseRowOn_eq {cells : List Cell}
    (each : ∀ c ∈ cells, ∀ path t, traverseOn w sink c path t =
      (.ofNamed path (traverseCell w sink c path t).1, (traverseCell w sink c path t).2))
    (i : Nat) (path : IndexPath) (t : τ) :
    traverseRowOn w sink cells i path t =
      (.ofNamed path (traverseRow w sink cells path i t).1, (traverseRow w sink cells path i t).2) := by
  induction cells generalizing i t with
  | nil => rfl
  | cons c cs ih =>
    rw [traverseRowOn, traverseRow, each c List.mem_cons_self]
    rcases traverseCell w sink c (path ++ [i]) t with ⟨stop | ⟨⟩, t⟩
    · rfl
    · simp only [Ending.ofNamed, List.dropLast_concat]
      exact ih (fun d mem => each d (List.mem_cons_of_mem _ mem)) (i + 1) t

/-- **Traversal with one stack** goes as traversal with a path for each call, gives the stack back when it
succeeds, and leaves it where it stopped otherwise. -/
theorem traverseOn_eq (c : Cell) (path : IndexPath) (t : τ) :
    traverseOn w sink c path t =
      (.ofNamed path (traverseCell w sink c path t).1, (traverseCell w sink c path t).2) := by
  induction c using Cell.induct generalizing path t with
  | plain tag payload owned =>
    rw [traverseOn, traverseCell]
    split
    case isTrue => rfl
    split
    case isTrue => rfl
    exact traverseLeaf_reading w sink _ path t
  | array tag items dimensions owned ih =>
    rw [traverseOn, traverseCell]
    split
    case isTrue => rfl
    split
    case isFalse => exact traverseLeaf_reading w sink _ path t
    rcases sink.onArray path (shapeOf w sink items dimensions path t) items t with ⟨e | ⟨⟨⟩ | ⟨⟩⟩, t⟩
    · rfl
    · rfl
    · exact traverseRowOn_eq w sink ih 0 path t

end Sink

end RuntimeBridge
