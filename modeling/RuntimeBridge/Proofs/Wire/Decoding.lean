/-
# Decoding follows the cell

Traversal hands the cells one by one to a builder, which looks up the place of each by its path.  What
comes of it is told here by recursion on the cell (`Cell.decode`), with no paths to look up: a leaf has
its value, an array the values of its elements.  The path is kept for errors, and a number for the
handles of other runtimes, each of which gets an identity of its own.

Main statement: `decode_eq`, decoding some cells into slots is this recursion, failures included.
-/
import RuntimeBridge.Proofs.Wire.Slots
namespace RuntimeBridge

/-! ## 1. Decoding by recursion -/

namespace Cell

/-- **Induction over a cell**: one without elements, or one over cells for which it is known. -/
theorem induct {P : Cell → Prop} (plain : ∀ tag payload owned, P (.plain tag payload owned))
    (array : ∀ tag items dimensions owned, (∀ c ∈ items, P c) →
      P (.array tag items dimensions owned)) : ∀ c, P c
  | .plain tag payload owned => plain tag payload owned
  | .array tag items dimensions owned => array tag items dimensions owned fun c mem =>
    have : sizeOf c < sizeOf items := List.sizeOf_lt_of_mem mem
    induct plain array c

/-- The value of a cell that is no array, and the next identity for handles of other runtimes. -/
def decodeLeaf (w : World) (c : Cell) (path : IndexPath) (supply : Nat) :
    Except Stop Value × Nat :=
  match c.tag.kind? with
  | some .null => (.ok .null, supply)
  | some (.string width) =>
    match c.text? with
    | some text => (.ok (.string width text), supply)
    | none => (.error ⟨.marshal (.invalidString (.path path) c.tag), path⟩, supply)
  | some .handle =>
    match c.handle? with
    | none => (.ok .null, supply)
    | some r =>
      if r.isNull then (.ok .null, supply)
      else if r.isLocal then
        match w.resolveLocal r with
        | .ok o => (.ok (.object o), supply)
        | .error e => (.error ⟨.error (.handle e), path⟩, supply)
      else (.ok (.foreign ⟨supply, r⟩), supply + 1)
  | some .callable =>
    match c.callable?.bind fun r => r.callable? w with
    | some f => (.ok (.callable f), supply)
    | none => (.error ⟨.marshal (.nullCallable (.path path)), path⟩, supply)
  | some .any => (.error ⟨.marshal (.unknownType c.tag (.path path)), path⟩, supply)
  | some _ =>
    match c.scalar? with
    | some s => (.ok (.scalar s), supply)
    | none => (.error ⟨.marshal (.invalidChar (.path path)), path⟩, supply)
  | none => (.error ⟨.marshal (.unknownType c.tag (.path path)), path⟩, supply)

mutual

/-- The value of a cell. -/
def decode (w : World) : Cell → IndexPath → Nat → Except Stop Value × Nat
  | .plain tag payload owned, path, supply =>
    if tag.isAny then (.error ⟨.marshal (.unresolvedAny (.path path)), path⟩, supply)
    else if tag.isArray then (.error ⟨.marshal (.nullArray (.path path)), path⟩, supply)
    else decodeLeaf w (.plain tag payload owned) path supply
  | .array tag items dimensions owned, path, supply =>
    if tag.isAny then (.error ⟨.marshal (.unresolvedAny (.path path)), path⟩, supply)
    else if tag.isArray then
      match decodeRow w items path 0 supply with
      | (.ok vs, supply) => (.ok (.array vs), supply)
      | (.error stop, supply) => (.error stop, supply)
    else decodeLeaf w (.array tag items dimensions owned) path supply

/-- The values of the elements from index `i` on. -/
def decodeRow (w : World) : List Cell → IndexPath → Nat → Nat → Except Stop (List Value) × Nat
  | [], _, _, supply => (.ok [], supply)
  | c :: cs, path, i, supply =>
    match decode w c (path ++ [i]) supply with
    | (.error stop, supply) => (.error stop, supply)
    | (.ok v, supply) =>
      match decodeRow w cs path (i + 1) supply with
      | (.error stop, supply) => (.error stop, supply)
      | (.ok vs, supply) => (.ok (v :: vs), supply)

end

/-! ## 2. Identities -/

section

variable (w : World)

/-- Decoding gives out identities and takes none back. -/
theorem supply_decodeLeaf (c : Cell) (path : IndexPath) (supply : Nat) :
    supply ≤ (decodeLeaf w c path supply).2 := by
  unfold decodeLeaf
  repeat' split
  all_goals simp

theorem supply_decodeRow {cells : List Cell}
    (each : ∀ c ∈ cells, ∀ path supply, supply ≤ (decode w c path supply).2) (path : IndexPath)
    (i supply : Nat) : supply ≤ (decodeRow w cells path i supply).2 := by
  induction cells generalizing i supply with
  | nil => exact Nat.le_refl supply
  | cons c cs ih =>
    obtain ⟨first, rest⟩ := List.forall_mem_cons.mp each
    have here := first (path ++ [i]) supply
    rw [decodeRow]
    rcases decoded : decode w c (path ++ [i]) supply with ⟨stop | v, used⟩
    · rw [decoded] at here
      exact here
    · rw [decoded] at here
      have behind := ih rest (i + 1) used
      rcases row : decodeRow w cs path (i + 1) used with ⟨stop | vs, used'⟩
      all_goals
        rw [row] at behind
        simp only [row]
        exact Nat.le_trans here behind

theorem supply_decode (c : Cell) (path : IndexPath) (supply : Nat) :
    supply ≤ (decode w c path supply).2 := by
  induction c using Cell.induct generalizing path supply with
  | plain tag payload owned =>
    rw [decode]
    repeat' split
    · exact Nat.le_refl _
    · exact Nat.le_refl _
    · exact supply_decodeLeaf w _ path supply
  | array tag items dimensions owned ih =>
    rw [decode]
    split
    · exact Nat.le_refl _
    · split
      · have row := supply_decodeRow w ih path 0 supply
        rcases decoded : decodeRow w items path 0 supply with ⟨stop | vs, used⟩ <;>
          rwa [decoded] at row
      · exact supply_decodeLeaf w _ path supply

end

/-! ## 3. Shapes -/

/-- The shape of an array cell as a builder notes it. -/
def shape (w : World) (items : List Cell) (dimensions : Int) : ArrayShape :=
  let common := commonTag items
  { length := items.length
    dimensions
    commonType := common
    objectType := if common == .handle then w.sampleType? items w.handleSamples else none }

mutual

/-- Path and shape of each array in a cell. -/
def shapes (w : World) : Cell → IndexPath → List (IndexPath × ArrayShape)
  | .plain _ _ _, _ => []
  | .array tag items dimensions _, path =>
    if tag.isArray then (path, shape w items dimensions) :: shapesOf w items path 0 else []

/-- Path and shape of each array in the elements from index `i` on. -/
def shapesOf (w : World) : List Cell → IndexPath → Nat → List (IndexPath × ArrayShape)
  | [], _, _ => []
  | c :: cs, path, i => shapes w c (path ++ [i]) ++ shapesOf w cs path (i + 1)

end

end Cell

/-! ## 4. Leaves -/

namespace ValueBuilder

/-- Traversal from `b` did what decoding says: it wrote the value at the path and noted shapes, or
stopped for the same reason, and used up as many identities. -/
def Wrote (b : ValueBuilder) (path : IndexPath) (noted : List (IndexPath × ArrayShape))
    (decoded : Except Stop Value × Nat) (traversed : Except Stop Unit × ValueBuilder) : Prop :=
  match decoded with
  | (.ok v, supply) => ∃ slots, fillSlots? b.slots path v = some slots ∧
      traversed = (.ok (), ⟨slots, b.shapes ++ noted, supply⟩)
  | (.error stop, supply) => traversed.1 = .error stop ∧ traversed.2.supply = supply

/-- Any value can be written at the path. -/
def Room (slots : List Value) (path : IndexPath) : Prop :=
  ∀ v, ∃ slots', fillSlots? slots path v = some slots'

variable {w : World} {path : IndexPath}

theorem wrote_put {b : ValueBuilder} (room : Room b.slots path) (v : Value) (supply : Nat) :
    Wrote b path [] (.ok v, supply)
      (Sink.answer path ({ b with supply }.put path v)) := by
  obtain ⟨slots, written⟩ := room v
  refine ⟨slots, written, ?_⟩
  have put : { b with supply }.put path v = (.ok (), { b with slots, supply }) :=
    put_of_fillSlots? written
  rw [put, List.append_nil]
  rfl

theorem wrote_leaf {b : ValueBuilder} (room : Room b.slots path) (c : Cell) :
    Wrote b path [] (c.decodeLeaf w path b.supply) (sink.traverseLeaf w c path b) := by
  have put := fun v => wrote_put room v b.supply
  unfold Cell.decodeLeaf Sink.traverseLeaf
  cases c.tag.kind? with
  | none => exact ⟨rfl, rfl⟩
  | some kind =>
    cases kind with
    | null => exact put .null
    | string width =>
      cases c.text? with
      | none => exact ⟨rfl, rfl⟩
      | some text => exact put (.string width text)
    | handle =>
      simp only
      cases c.handle? with
      | none => exact put .null
      | some r =>
        simp only
        cases r.isNull with
        | true => exact put .null
        | false =>
          simp only [Bool.false_eq_true, if_false]
          cases r.isLocal with
          | true =>
            simp only [if_true]
            cases w.resolveLocal r with
            | ok o => exact put (.object o)
            | error e => exact ⟨rfl, rfl⟩
          | false => exact wrote_put room (.foreign ⟨b.supply, r⟩) (b.supply + 1)
    | callable =>
      simp only
      cases c.callable?.bind fun r => r.callable? w with
      | none => exact ⟨rfl, rfl⟩
      | some f => exact put (.callable f)
    | any => exact ⟨rfl, rfl⟩
    | _ =>
      cases c.scalar? with
      | none => exact ⟨rfl, rfl⟩
      | some s => exact put (.scalar s)

/-! ## 5. Arrays -/

/-- As `Wrote`, for the elements of the array at the path that come after those already done. -/
def WroteRow (b : ValueBuilder) (path : IndexPath) (done : List Value)
    (noted : List (IndexPath × ArrayShape)) (decoded : Except Stop (List Value) × Nat)
    (traversed : Except Stop Unit × ValueBuilder) : Prop :=
  match decoded with
  | (.ok vs, supply) => ∃ slots, fillSlots? b.slots path (.array (done ++ vs)) = some slots ∧
      traversed = (.ok (), ⟨slots, b.shapes ++ noted, supply⟩)
  | (.error stop, supply) => traversed.1 = .error stop ∧ traversed.2.supply = supply

theorem room_element {slots : List Value} {done later : List Value}
    (there : SlotAt slots path (.array (done ++ .null :: later))) (v : Value) :
    fillSlots? slots (path ++ [done.length]) v =
      fillSlots? slots path (.array ((done ++ [v]) ++ later)) := by
  have inside : done.length < (done ++ Value.null :: later).length := by simp
  rw [fillSlots?_append there inside]
  simp

theorem wrote_row {cells : List Cell}
    (each : ∀ c ∈ cells, ∀ path b, path ≠ [] → Room b.slots path →
      Wrote b path (c.shapes w path) (c.decode w path b.supply) (sink.traverseCell w c path b))
    {b : ValueBuilder} (done : List Value)
    (there : SlotAt b.slots path (.array (done ++ List.replicate cells.length .null))) :
    WroteRow b path done (Cell.shapesOf w cells path done.length)
      (Cell.decodeRow w cells path done.length b.supply)
      (sink.traverseRow w cells path done.length b) := by
  induction cells generalizing b done with
  | nil =>
    refine ⟨b.slots, ?_, ?_⟩
    · simpa using fillSlots?_self there
    · rw [Cell.shapesOf, List.append_nil]
      rfl
  | cons c cs ih =>
    rw [List.length_cons, List.replicate_succ] at there
    have place := room_element there
    have room : Room b.slots (path ++ [done.length]) := fun v => by
      rw [place]
      exact fillSlots?_of_slotAt there _
    have here := each c List.mem_cons_self _ b (by simp) room
    rw [Cell.decodeRow, Cell.shapesOf, Sink.traverseRow]
    rcases decoded : c.decode w (path ++ [done.length]) b.supply with ⟨stop | v, supply⟩
    · rw [decoded] at here
      obtain ⟨stopped, used⟩ := here
      rcases traversed : sink.traverseCell w c (path ++ [done.length]) b with ⟨outcome, b'⟩
      rw [traversed] at stopped used
      obtain rfl : outcome = .error stop := stopped
      exact ⟨rfl, used⟩
    · rw [decoded] at here
      obtain ⟨slots, written, traversed⟩ := here
      rw [place] at written
      have next : SlotAt slots path
          (.array ((done ++ [v]) ++ List.replicate cs.length .null)) :=
        slotAt_of_fillSlots? there.1 written
      have rest := ih (fun d mem => each d (List.mem_cons_of_mem _ mem))
        (b := ⟨slots, b.shapes ++ c.shapes w (path ++ [done.length]), supply⟩) (done ++ [v]) next
      rw [List.length_append, List.length_singleton] at rest
      simp only [traversed]
      rcases row : Cell.decodeRow w cs path (done.length + 1) supply with ⟨stop | vs, supply'⟩
      · rw [row] at rest
        exact rest
      · rw [row] at rest
        obtain ⟨slots', filled, walked⟩ := rest
        refine ⟨slots', ?_, ?_⟩
        · rw [fillSlots?_fillSlots? there.1 written] at filled
          simpa using filled
        · simpa using walked

/-- **One cell is decoded by recursion** and written where its path leads. -/
theorem wrote_cell (c : Cell) {b : ValueBuilder} (inside : path ≠ []) (room : Room b.slots path) :
    Wrote b path (c.shapes w path) (c.decode w path b.supply) (sink.traverseCell w c path b) := by
  induction c using Cell.induct generalizing path b with
  | plain tag payload owned =>
    rw [Cell.decode, Cell.shapes, Sink.traverseCell]
    split
    · exact ⟨rfl, rfl⟩
    · split
      · exact ⟨rfl, rfl⟩
      · exact wrote_leaf room _
  | array tag items dimensions owned ih =>
    rw [Cell.decode, Cell.shapes, Sink.traverseCell]
    by_cases isAny : tag.isAny = true
    · rw [if_pos isAny, if_pos isAny]
      exact ⟨rfl, rfl⟩
    rw [if_neg isAny, if_neg isAny]
    by_cases isArray : tag.isArray = true
    · rw [if_pos isArray, if_pos isArray, if_pos isArray]
      -- first an array of nulls is written, then its elements one by one
      obtain ⟨slots, written⟩ := room (.array (List.replicate items.length .null))
      let noted : ValueBuilder :=
        { b with shapes := b.shapes ++ [(path, Cell.shape w items dimensions)] }
      have opened : sink.onArray path (sink.shapeOf w items dimensions path b) items b =
          (.ok true, { noted with slots }) := by
        have put : noted.put path (.array (List.replicate items.length .null)) =
            (.ok (), { noted with slots }) := put_of_fillSlots? written
        show putArray b path (Cell.shape w items dimensions) = _
        simp only [putArray]
        rw [show (Cell.shape w items dimensions).length = items.length from rfl, put]
      have row := wrote_row (w := w) (fun c mem path b => ih c mem) (b := { noted with slots }) []
        (slotAt_of_fillSlots? inside written)
      simp only [opened, Sink.answer]
      rcases decoded : Cell.decodeRow w items path 0 b.supply with ⟨stop | vs, supply⟩
      · rw [List.length_nil, decoded] at row
        exact row
      · rw [List.length_nil, decoded] at row
        obtain ⟨slots', filled, walked⟩ := row
        refine ⟨slots', ?_, ?_⟩
        · rw [fillSlots?_fillSlots? inside written] at filled
          simpa using filled
        · simpa [noted] using walked
    · rw [if_neg isArray, if_neg isArray, if_neg isArray]
      exact wrote_leaf room _

/-! ## 6. Top-level positions -/

theorem fillSlots?_next (done later : List Value) (v : Value) :
    fillSlots? (done ++ later) [done.length] v = some ((done ++ [v]) ++ later.tail) := by
  rw [fillSlots?_top]
  cases later with
  | nil => simp [widen]
  | cons first later => simp [widen]

theorem wrote_top (cells : List Cell) (done later : List Value)
    (noted : List (IndexPath × ArrayShape)) (supply : Nat) :
    match Cell.decodeRow w cells [] done.length supply with
    | (.ok vs, supply') =>
      sink.traverseRow w cells [] done.length ⟨done ++ later, noted, supply⟩ =
        (.ok (), ⟨(done ++ vs) ++ later.drop cells.length,
          noted ++ Cell.shapesOf w cells [] done.length, supply'⟩)
    | (.error stop, supply') =>
      (sink.traverseRow w cells [] done.length ⟨done ++ later, noted, supply⟩).1 = .error stop ∧
        (sink.traverseRow w cells [] done.length ⟨done ++ later, noted, supply⟩).2.supply =
          supply' := by
  induction cells generalizing done later noted supply with
  | nil => simp [Cell.decodeRow, Cell.shapesOf, Sink.traverseRow]
  | cons c cs ih =>
    have room : Room (done ++ later) [done.length] := fun v => ⟨_, fillSlots?_next done later v⟩
    have here := wrote_cell (w := w) c (b := ⟨done ++ later, noted, supply⟩)
      (List.cons_ne_nil _ _) room
    rw [Cell.decodeRow, Cell.shapesOf, Sink.traverseRow, List.nil_append]
    simp only at here ⊢
    rcases decoded : c.decode w [done.length] supply with ⟨stop | v, used⟩
    · rw [decoded] at here
      obtain ⟨stopped, same⟩ := here
      rcases traversed : sink.traverseCell w c [done.length] ⟨done ++ later, noted, supply⟩ with
        ⟨outcome, b⟩
      rw [traversed] at stopped same
      obtain rfl : outcome = .error stop := stopped
      exact ⟨rfl, same⟩
    · rw [decoded] at here
      obtain ⟨slots, written, traversed⟩ := here
      obtain rfl : done ++ [v] ++ later.tail = slots :=
        Option.some.inj ((fillSlots?_next done later v).symm.trans written)
      have rest := ih (done ++ [v]) later.tail (noted ++ c.shapes w [done.length]) used
      rw [List.length_append, List.length_singleton] at rest
      simp only [traversed]
      rcases row : Cell.decodeRow w cs [] (done.length + 1) used with ⟨stop | vs, used'⟩
      · rw [row] at rest
        exact rest
      · rw [row] at rest
        simpa using rest

end ValueBuilder

/-- **Decoding some cells into slots**: the values by recursion on the cells, and nulls behind them
where there are more slots; or the reason for which the recursion stops. -/
theorem World.decode_eq (w : World) (cells : List Cell) (slots : Nat) :
    match Cell.decodeRow w cells [] 0 w.supply with
    | (.ok vs, supply) =>
      w.decode cells slots =
        (.ok ⟨vs ++ List.replicate (slots - cells.length) .null, Cell.shapesOf w cells [] 0, supply⟩,
          { w with supply })
    | (.error stop, supply) => w.decode cells slots = (.error stop, { w with supply }) := by
  have top := ValueBuilder.wrote_top (w := w) cells [] (List.replicate slots .null) []
    w.supply
  simp only [List.length_nil, List.nil_append, List.drop_replicate] at top
  unfold World.decode Sink.traverseCells
  rcases decoded : Cell.decodeRow w cells [] 0 w.supply with ⟨stop | vs, supply⟩
  · rw [decoded] at top
    obtain ⟨stopped, used⟩ := top
    simp only
    rcases traversed : ValueBuilder.sink.traverseRow w cells [] 0
      ⟨List.replicate slots .null, [], w.supply⟩ with ⟨outcome, b⟩
    rw [traversed] at stopped used
    obtain rfl : outcome = .error stop := stopped
    simp only at used ⊢
    rw [used]
  · rw [decoded] at top
    simp only at top ⊢
    rw [top]

end RuntimeBridge
