/-
# What construction leaves behind

Constructing cells from values changes the process at some positions: an object is registered, a value
is wrapped and registered, a function is exported.  What happens at a position is its mark, and a
position where the value is refused has none.  The marks of all positions, in the order in which
construction reaches them, are read off the values and their declared types alone (`ValueSource.plan`).

Construction writes the marks up to the first position that is refused, and does nothing else.

Main statement: `writes_construct`.
-/
import RuntimeBridge.Proofs.Wire.Form
import RuntimeBridge.Proofs.Wire.Carry
namespace RuntimeBridge

/-! ## 1. Marks -/

/-- What is left behind at a position where a value is taken. -/
inductive Mark where
  /-- Nothing: the cell says it all. -/
  | plain
  /-- An object is registered. -/
  | object (o : Object)
  /-- A value is wrapped as a new object, which is registered. -/
  | wrapped (v : Value)
  /-- A function is exported for the cell. -/
  | exported (f : NativeFunction)
  /-- The call point of a foreign callable is carried. -/
  | carried (c : ForeignCallable)

/-- Both parts of the signature are short enough for the wire. -/
def Callable.isShort (c : Callable) : Bool :=
  c.params.length ≤ signatureLimit && c.retvals.length ≤ signatureLimit

def Callable.mark : Callable → Mark
  | native f => .exported f
  | foreign c => .carried c

namespace Value

/-- The mark of a value as a handle: plain values are wrapped. -/
def handleMark : Value → Mark
  | object o => .object o
  | foreign _ | null => .plain
  | v => .wrapped v

/-- The mark of a value in a cell of a kind, unless the value is refused there. -/
def mark? (v : Value) (kind : BaseKind) : Option Mark :=
  match kind with
  | .null => some .plain
  | .string _ => v.text?.bind fun s => if holdsNul s then none else some .plain
  | .handle => some v.handleMark
  | .callable => v.callable?.bind fun c => if c.isShort then some c.mark else none
  | .any => none
  | kind => if (ValueSource.scalarOf [] kind v).isOk then some .plain else none

mutual

/-- The marks of a value below the top level, under the leaf kind declared there. -/
def plan (declared : Option BaseKind) : Value → List (Option Mark)
  | .array items => planItems declared false items
  | v => [v.mark? (v.leafKind.under declared)]

/-- The marks of elements; in a flat row an array is refused after its elements. -/
def planItems (declared : Option BaseKind) (flat : Bool) : List Value → List (Option Mark)
  | [] => []
  | v :: vs =>
    v.plan declared ++ (if flat && v.items?.isSome then [none] else []) ++
      planItems declared flat vs

end

theorem plan_leaf {v : Value} (leaf : v.items? = none) (declared : Option BaseKind) :
    v.plan declared = [v.mark? (v.leafKind.under declared)] := by
  cases v <;> simp_all [items?, plan]

/-- The marks of a value at the top level, under its declared type. -/
def topPlan (declared : Option TypeInfo) (v : Value) : List (Option Mark) :=
  let info := v.topType declared
  if !info.wireTag.isKnown then [none]
  else if info.wireTag.isArray then
    match v.items? with
    | none => [none]
    | some items => planItems (declaredLeaf? declared) (ValueSource.is1D info items) items
  else [info.wireTag.kind?.bind v.mark?]

end Value

/-- The mark of a position without a value: nothing but a declared null is taken there. -/
def missingMark? (declared : Option TypeInfo) : Option Mark :=
  declared.bind fun info => if info.wireTag = .null then some .plain else none

namespace ValueSource

/-- The marks of position `i`. -/
def planAt (src : ValueSource) (i : Nat) : List (Option Mark) :=
  match src.values[i]? with
  | some v => v.topPlan src.declared[i]?
  | none => [missingMark? src.declared[i]?]

/-- The marks of `count` positions. -/
def plan (src : ValueSource) (count : Nat) : List (Option Mark) :=
  (List.range count).flatMap src.planAt

end ValueSource

/-- The marks before the first refusal. -/
def reached : List (Option Mark) → List Mark
  | some m :: rest => m :: reached rest
  | _ => []

theorem reached_append_of_taken {before : List (Option Mark)} (taken : ∀ m ∈ before, m ≠ none)
    (rest : List (Option Mark)) : reached (before ++ rest) = reached before ++ reached rest := by
  induction before with
  | nil => rfl
  | cons m before ih =>
    obtain ⟨here, later⟩ := List.forall_mem_cons.mp taken
    cases m with
    | none => exact absurd rfl here
    | some m => simp only [List.cons_append, reached, ih later]

theorem reached_append_of_refused {before : List (Option Mark)} (refused : none ∈ before)
    (rest : List (Option Mark)) : reached (before ++ rest) = reached before := by
  induction before with
  | nil => simp at refused
  | cons m before ih =>
    cases m with
    | none => rfl
    | some m =>
      have later : none ∈ before := by simpa using refused
      simp only [List.cons_append, reached, ih later]

/-! ## 2. Writing -/

/-- The record of a foreign callable. -/
def ForeignCallable.record (c : ForeignCallable) : CallableRecord :=
  ⟨some c.point, c.params.map TypeInfo.wireTag, c.retvals.map TypeInfo.wireTag⟩

/-- Write a mark: the callable records in its cell, and the process. -/
def Mark.write (m : Mark) (w : World) : List CallableRecord × World :=
  match m with
  | plain => ([], w)
  | object o => ([], (w.registerObject o).2)
  | wrapped v =>
    let (o, w) := w.newObject (.value v)
    ([], (w.registerObject o).2)
  | exported f => ([exportedRecord f w], (w.exportForCell f).2)
  | carried c => ([c.record], w)

/-- Write marks, one after the other. -/
def writeMarks : List Mark → World → List CallableRecord × World
  | [], w => ([], w)
  | m :: ms, w =>
    let (first, w) := m.write w
    let (rest, w) := writeMarks ms w
    (first ++ rest, w)

theorem writeMarks_append (ms later : List Mark) (w : World) :
    writeMarks (ms ++ later) w =
      ((writeMarks ms w).1 ++ (writeMarks later (writeMarks ms w).2).1,
        (writeMarks later (writeMarks ms w).2).2) := by
  induction ms generalizing w with
  | nil => rfl
  | cons m ms ih => simp only [List.cons_append, writeMarks, ih, List.append_assoc]

/-- What construction does with a plan: it succeeds if nothing is refused, and otherwise stops at the
first refusal; the records in the cells, and the process, are those of the marks reached. -/
structure Writes (plan : List (Option Mark)) (w : World) (outcome : Except Stop Unit)
    (records : List CallableRecord) (after : World) : Prop where
  ok_iff : outcome = .ok () ↔ ∀ m ∈ plan, m ≠ none
  written : writeMarks (reached plan) w = (records, after)

namespace Writes

variable {p q : List (Option Mark)} {w w' w'' : World} {outcome outcome' : Except Stop Unit}
  {rs rs' : List CallableRecord}

theorem nil (w : World) : Writes [] w (.ok ()) [] w :=
  ⟨by simp, rfl⟩

theorem refused (stop : Stop) (w : World) : Writes [none] w (.error stop) [] w :=
  ⟨by simp, rfl⟩

theorem taken (m : Mark) (w : World) : Writes [some m] w (.ok ()) (m.write w).1 (m.write w).2 :=
  ⟨by simp, by simp [reached, writeMarks]⟩

/-- What succeeds goes on. -/
theorem append (first : Writes p w (.ok ()) rs w') (second : Writes q w' outcome rs' w'') :
    Writes (p ++ q) w outcome (rs ++ rs') w'' := by
  have all := first.ok_iff.mp rfl
  refine ⟨?_, ?_⟩
  · rw [second.ok_iff]
    simp only [List.mem_append, or_imp, forall_and]
    exact ⟨fun h => ⟨all, h⟩, fun h => h.2⟩
  · rw [reached_append_of_taken all, writeMarks_append, first.written]
    simp only [second.written]

/-- What fails stops there. -/
theorem stop {stop : Stop} (first : Writes p w (.error stop) rs w') (q : List (Option Mark)) :
    Writes (p ++ q) w (.error stop) rs w' := by
  have none_mem : none ∈ p := by
    have := first.ok_iff.not.mp nofun
    simpa using this
  refine ⟨⟨nofun, fun all => ?_⟩, ?_⟩
  · exact absurd rfl (all none (List.mem_append_left q none_mem))
  · rw [reached_append_of_refused none_mem]
    exact first.written

end Writes

/-! ## 3. Leaves -/

theorem ownedRecords_ofCallable (r : CallableRecord) : (Cell.ofCallable r).ownedRecords = [r] := by
  simp [Cell.ofCallable, Cell.ownedRecords]

theorem ownedRecords_ofHandle (r : HandleRecord) : (Cell.ofHandle r).ownedRecords = [] := by
  simp [Cell.ofHandle, Cell.ownedRecords]

theorem ownedRecords_ofText (width : Width) (s : String) :
    (Cell.ofText width s).ownedRecords = [] := by
  simp [Cell.ofText, Cell.ownedRecords]

theorem ownedRecords_ofScalar (s : Scalar) : (Cell.ofScalar s).ownedRecords = [] := by
  simp [Cell.ofScalar, Cell.ownedRecords]

theorem ownedRecords_ofArray (leaf : BaseKind) (cells : List Cell) (dimensions : Int) :
    (Cell.ofArray (.ofKind leaf) cells dimensions).ownedRecords = Cell.ownedRecordsOf cells := by
  simp [Cell.ofArray, Cell.ownedRecords]

theorem ownedRecordsOf_replicate_null (n : Nat) :
    Cell.ownedRecordsOf (List.replicate n Cell.null) = [] := by
  induction n with
  | zero => rfl
  | succ n ih => rw [List.replicate_succ, Cell.ownedRecordsOf, ih, Cell.ownedRecords_null]; rfl

/-- Whether a value has a scalar of a kind does not depend on the path it is asked at. -/
theorem isOk_scalarOf (path path' : IndexPath) (kind : BaseKind) (v : Value) :
    (ValueSource.scalarOf path kind v).isOk = (ValueSource.scalarOf path' kind v).isOk := by
  cases kind <;> simp only [ValueSource.scalarOf]
  all_goals repeat' split
  all_goals rfl

theorem Callable.isShort_iff (c : Callable) :
    c.isShort = true ↔ c.params.length ≤ signatureLimit ∧ c.retvals.length ≤ signatureLimit := by
  simp [isShort]

theorem toRecord_native_of_short {f : NativeFunction} (short : (Callable.native f).isShort = true)
    (w : World) :
    (Callable.native f).toRecord w = (.ok (exportedRecord f w), (w.exportForCell f).2) := by
  obtain ⟨params, retvals⟩ := (Callable.isShort_iff _).mp short
  exact (toRecord_native f w).trans ((if_pos params).trans (if_pos retvals))

theorem toRecord_foreign_of_short {c : ForeignCallable}
    (short : (Callable.foreign c).isShort = true) (w : World) :
    (Callable.foreign c).toRecord w = (.ok c.record, w) := by
  obtain ⟨params, retvals⟩ := (Callable.isShort_iff _).mp short
  simp only [Callable.toRecord, signatureCount?, List.length_map, params, retvals, if_true]
  rfl

/-- **A callable that is refused for its signature registers nothing.** -/
theorem toRecord_of_long {c : Callable} (long : c.isShort = false) (w : World) :
    ∃ e, c.toRecord w = (.error e, w) := by
  simp only [Callable.isShort, Bool.and_eq_false_iff, decide_eq_false_iff_not] at long
  simp only [Callable.toRecord, signatureCount?, List.length_map]
  by_cases params : c.params.length ≤ signatureLimit
  · have retvals : ¬ c.retvals.length ≤ signatureLimit := long.resolve_left (not_not_intro params)
    simp only [params, retvals, if_true, if_false]
    exact ⟨_, rfl⟩
  · simp only [params, if_false]
    exact ⟨_, rfl⟩

theorem writes_fill_text (v : Value) (path : IndexPath) (width : Width) (w : World) :
    Writes [v.mark? (.string width)] w (v.fill path (.string width) .null w).outcome
      (v.fill path (.string width) .null w).built.ownedRecords
      (v.fill path (.string width) .null w).world := by
  simp only [Value.mark?, Value.fill, Value.asLeaf]
  cases v.text? with
  | none => exact .refused _ w
  | some s =>
    simp only [Option.bind_some, LeafContent.put, Cell.setText?]
    cases holdsNul s with
    | true => exact .refused _ w
    | false =>
      have written := Writes.taken .plain w
      simp only [Bool.false_eq_true, if_false, Source.filled, Cell.replace, World.freeCell_null,
        ownedRecords_ofText]
      exact written

/-- A handle is minted for an object, and for a plain value that is wrapped. -/
theorem writes_fill_handle (v : Value) (path : IndexPath) (w : World) :
    Writes [v.mark? .handle] w (v.fill path .handle .null w).outcome
      (v.fill path .handle .null w).built.ownedRecords (v.fill path .handle .null w).world := by
  simp only [Value.mark?, Value.fill, Value.asLeaf, LeafContent.put, Source.filled,
    Cell.setHandle, Cell.replace, World.freeCell_null, ownedRecords_ofHandle]
  cases v with
  | null | foreign h => exact .taken .plain w
  | object o => exact .taken (.object o) w
  | scalar s => exact .taken (.wrapped _) w
  | string width s => exact .taken (.wrapped _) w
  | array items => exact .taken (.wrapped _) w
  | callable c => exact .taken (.wrapped _) w

/-- A function is exported for the cell, and a foreign callable is carried, if the signature is short. -/
theorem writes_fill_callable (v : Value) (path : IndexPath) (w : World) :
    Writes [v.mark? .callable] w (v.fill path .callable .null w).outcome
      (v.fill path .callable .null w).built.ownedRecords
      (v.fill path .callable .null w).world := by
  simp only [Value.mark?, Value.fill, Value.asLeaf]
  cases v.callable? with
  | none => exact .refused _ w
  | some c =>
    simp only [Option.bind_some, LeafContent.put]
    cases short : c.isShort with
    | false =>
      obtain ⟨e, given⟩ := toRecord_of_long short w
      simp only [given]
      exact .refused _ w
    | true =>
      cases c with
      | native f =>
        rw [toRecord_native_of_short short]
        simp only [if_true, Source.filled, Cell.setCallable, Cell.replace, World.freeCell_null,
          ownedRecords_ofCallable]
        exact .taken (.exported f) w
      | foreign c =>
        rw [toRecord_foreign_of_short short]
        simp only [if_true, Source.filled, Cell.setCallable, Cell.replace, World.freeCell_null,
          ownedRecords_ofCallable]
        exact .taken (.carried c) w

/-- **Filling an empty cell** writes the mark of the value, if it has one. -/
theorem writes_fill (v : Value) (path : IndexPath) (kind : BaseKind) (w : World) :
    Writes [v.mark? kind] w (v.fill path kind .null w).outcome
      (v.fill path kind .null w).built.ownedRecords (v.fill path kind .null w).world := by
  cases kind with
  | null => exact .taken .plain w
  | any => exact .refused _ w
  | string width => exact writes_fill_text v path width w
  | handle => exact writes_fill_handle v path w
  | callable => exact writes_fill_callable v path w
  | _ =>
    -- the other kinds are those of scalars, which leave nothing behind
    simp only [Value.mark?, Value.fill, Value.asLeaf]
    rw [isOk_scalarOf [] path]
    cases ValueSource.scalarOf path _ v with
    | error e => exact .refused _ w
    | ok s =>
      have written := Writes.taken .plain w
      simp only [Except.map, Except.isOk, Except.toBool, if_true, LeafContent.put, Source.filled,
        Cell.setScalar, Cell.replace, World.freeCell_null, ownedRecords_ofScalar]
      exact written

/-! ## 4. Values -/

/-- An array cell over a row writes what the row does. -/
theorem writes_closeArray {plan : List (Option Mark)} {w : World} {row : Built Unit (List Cell)}
    (written : Writes plan w row.outcome (Cell.ownedRecordsOf row.built) row.world)
    (leaf : BaseKind) (dimensions : Int) :
    Writes plan w (closeArray leaf dimensions row).outcome
      (closeArray leaf dimensions row).built.ownedRecords
      (closeArray leaf dimensions row).world := by
  rw [closeArray_outcome, closeArray_world]
  have records : (closeArray leaf dimensions row).built.ownedRecords =
      Cell.ownedRecordsOf row.built := by
    unfold closeArray
    cases row.outcome <;> exact ownedRecords_ofArray _ _ _
  rwa [records]

/-- The check of an element in a flat row refuses arrays, with all that was built of them. -/
theorem writes_checkElement {plan : List (Option Mark)} {w : World} {r : Built Unit Cell}
    (written : Writes plan w r.outcome r.built.ownedRecords r.world) (path : IndexPath)
    (flat : Bool) {isArray : Bool} (shape : r.outcome = .ok () → r.built.tag.isArray = isArray) :
    Writes (plan ++ if flat && isArray then [none] else []) w
      (Source.checkElement path flat r).outcome
      (Source.checkElement path flat r).built.ownedRecords
      (Source.checkElement path flat r).world := by
  unfold Source.checkElement
  cases outcome : r.outcome with
  | error stop =>
    rw [outcome] at written
    simp only [outcome]
    exact written.stop _
  | ok =>
    rw [outcome] at written
    simp only [shape outcome]
    cases flat && isArray with
    | false =>
      simp only [Bool.false_eq_true, if_false, List.append_nil, outcome]
      exact written
    | true =>
      simp only [if_true]
      have := written.append (.refused ⟨.error (.marshal (.nestedArrayIn1D (.path path))), path⟩ _)
      rwa [List.append_nil] at this

theorem writes_buildItems {declared : Option BaseKind} {flat : Bool} {items : List Value}
    (each : ∀ v ∈ items, ∀ path w, Writes (v.plan declared) w (v.build declared path w).outcome
      (v.build declared path w).built.ownedRecords (v.build declared path w).world)
    (path : IndexPath) (i : Nat) (w : World) :
    Writes (Value.planItems declared flat items) w
      (Value.buildItems declared path flat i items w).outcome
      (Cell.ownedRecordsOf (Value.buildItems declared path flat i items w).built)
      (Value.buildItems declared path flat i items w).world := by
  induction items generalizing i w with
  | nil =>
    rw [Value.buildItems]
    exact .nil w
  | cons v vs ih =>
    obtain ⟨first, rest⟩ := List.forall_mem_cons.mp each
    have here := writes_checkElement (first (path ++ [i]) w) (path ++ [i]) flat
      fun ok => (Value.formed_of_build ok).isArray_eq
    rw [Value.planItems, Value.buildItems_cons]
    generalize Source.checkElement (path ++ [i]) flat (v.build declared (path ++ [i]) w) = r at here
    cases outcome : r.outcome with
    | error stop =>
      rw [outcome] at here
      have padded := here.stop (Value.planItems declared flat vs)
      simp only [outcome, Cell.ownedRecordsOf, ownedRecordsOf_replicate_null, List.append_nil]
      exact padded
    | ok =>
      rw [outcome] at here
      simp only [outcome, Cell.ownedRecordsOf]
      exact here.append (ih rest (i + 1) r.world)

/-- **Below the top level** the marks of a value are written. -/
theorem writes_build (declared : Option BaseKind) (v : Value) (path : IndexPath) (w : World) :
    Writes (v.plan declared) w (v.build declared path w).outcome
      (v.build declared path w).built.ownedRecords (v.build declared path w).world := by
  induction v using Value.induct generalizing path w with
  | leaf v leaf =>
    rw [Value.plan_leaf leaf, Value.build_leaf leaf]
    exact writes_fill v path _ w
  | array items ih =>
    rw [Value.plan, Value.build_array]
    exact writes_closeArray (writes_buildItems (fun v mem path w => ih v mem path w) path 0 w) _ _

theorem writes_buildTop (i : Nat) (declared : Option TypeInfo) (v : Value) (w : World) :
    Writes (v.topPlan declared) w (v.buildTop i declared .null w).outcome
      (v.buildTop i declared .null w).built.ownedRecords (v.buildTop i declared .null w).world := by
  simp only [Value.topPlan, Value.buildTop]
  split
  · exact .refused _ w
  · split
    · cases v.items? with
      | none => exact .refused _ w
      | some items =>
        rw [World.freeCell_null]
        exact writes_closeArray
          (writes_buildItems (fun v _ path w => writes_build _ v path w) [i] 0 w) _ _
    · cases (v.topType declared).wireTag.kind? with
      | none => exact .refused _ w
      | some kind => exact writes_fill v [i] kind w

theorem refused_missingLeaf {src : ValueSource} {i : Nat} (nowhere : src.valueAt? [i] = none)
    {kind : BaseKind} (notNull : kind ≠ .null) (w : World) :
    ∃ e, src.source.constructLeaf [i] kind .null w () = Source.refuse [i] e .null w () := by
  cases kind with
  | null => exact absurd rfl notNull
  | any => exact ⟨_, rfl⟩
  | _ =>
    simp only [Source.constructLeaf, ValueSource.source, ValueSource.text, ValueSource.handle,
      ValueSource.callable, ValueSource.scalar, ValueSource.withValue_missing nowhere]
    exact ⟨_, rfl⟩

theorem refused_missing {src : ValueSource} {i : Nat} {info : TypeInfo}
    (nowhere : src.valueAt? [i] = none) (notNull : info.wireTag ≠ .null) (depth : Nat) (w : World) :
    ∃ e, src.source.constructCell (depth + 1) [i] (some info) .null w () =
      Source.refuse [i] e .null w () := by
  have asked : src.source.typeInfo [i] () = (.error (ValueSource.missing [i]), ()) :=
    congrArg (·, ()) (ValueSource.withValue_missing nowhere _)
  have layout : ∀ declared, src.source.arrayMetadata [i] declared () =
      (.error (ValueSource.missing [i]), ()) :=
    fun declared => congrArg (·, ()) (ValueSource.withValue_missing nowhere _)
  simp only [Source.constructCell, Source.resolveType]
  cases notAny : info.isAny with
  | true =>
    simp only [if_true, asked]
    exact ⟨_, rfl⟩
  | false =>
    simp only [Bool.false_eq_true, if_false, notAny, layout]
    split
    · exact ⟨_, rfl⟩
    · split
      · exact ⟨_, rfl⟩
      · cases known : info.wireTag.kind? with
        | none => exact ⟨_, rfl⟩
        | some kind =>
          refine refused_missingLeaf nowhere ?_ w
          rintro rfl
          exact notNull (TypeTag.eq_ofKind_of_kind? known)

/-- Where there is no value nothing is taken but a declared null. -/
theorem writes_missing {src : ValueSource} {i depth : Nat} (nowhere : src.valueAt? [i] = none)
    (w : World) :
    Writes [missingMark? src.declared[i]?] w
      (src.source.constructCell (depth + 1) [i] src.declared[i]? .null w ()).outcome
      (src.source.constructCell (depth + 1) [i] src.declared[i]? .null w ()).built.ownedRecords
      (src.source.constructCell (depth + 1) [i] src.declared[i]? .null w ()).world := by
  have asked : src.source.typeInfo [i] () = (.error (ValueSource.missing [i]), ()) :=
    congrArg (·, ()) (ValueSource.withValue_missing nowhere _)
  cases declared : src.declared[i]? with
  | none =>
    simp only [Source.constructCell, Source.resolveType, asked, missingMark?, Option.bind_none]
    exact .refused _ w
  | some info =>
    by_cases isNull : info.wireTag = .null
    · have notAny : info.isAny = false := by
        refine Bool.eq_false_iff.mpr fun isAny => ?_
        have base := TypeInfo.isAny_base isAny
        rw [← TypeTag.base_wireTag, isNull] at base
        exact absurd base (by decide)
      have mark : missingMark? (some info) = some .plain := by simp [missingMark?, isNull]
      rw [mark]
      simp only [Source.constructCell, Source.resolveType, notAny, Bool.false_eq_true, if_false,
        isNull]
      exact .taken .plain w
    · have mark : missingMark? (some info) = none := by simp [missingMark?, isNull]
      rw [mark]
      obtain ⟨e, refused⟩ := refused_missing nowhere isNull depth w
      rw [refused]
      exact .refused _ w

/-! ## 5. Lists of values -/

/-- Steps that write the marks of their positions write those of the row. -/
theorem writes_buildRow {planAt : Nat → List (Option Mark)}
    {step : Nat → Cell → World → Unit → Built Unit Cell} (count : Nat) {i : Nat}
    (each : ∀ j, i ≤ j → ∀ w, Writes (planAt j) w (step j .null w ()).outcome
      (step j .null w ()).built.ownedRecords (step j .null w ()).world)
    (w : World) :
    Writes ((List.range' i count).flatMap planAt) w
      (buildRow step i (List.replicate count .null) w ()).outcome
      (Cell.ownedRecordsOf (buildRow step i (List.replicate count .null) w ()).built)
      (buildRow step i (List.replicate count .null) w ()).world := by
  induction count generalizing i w with
  | zero => exact .nil w
  | succ count ih =>
    have here := each i (Nat.le_refl i) w
    rw [List.range'_succ, List.flatMap_cons, List.replicate_succ]
    simp only [buildRow]
    generalize step i .null w () = r at here
    cases outcome : r.outcome with
    | error stop =>
      rw [outcome] at here
      simp only [Cell.ownedRecordsOf, ownedRecordsOf_replicate_null, List.append_nil]
      exact here.stop _
    | ok =>
      rw [outcome] at here
      exact here.append (ih (fun j later w => each j (Nat.le_of_succ_le later) w) r.world)

/-- **Construction writes the plan**: into empty cells it writes the marks of the values under their
declared types up to the first one that is refused, and succeeds if there is none. -/
theorem writes_construct (src : ValueSource) (count : Nat) {a : CellArray}
    (empty : a.cells = List.replicate count Cell.null) (w : World) :
    Writes (src.plan count) w (src.construct a w).1
      (Cell.ownedRecordsOf (src.construct a w).2.1.cells) (src.construct a w).2.2 := by
  have each : ∀ j, 0 ≤ j → ∀ w, Writes (src.planAt j) w
      (src.source.constructCell src.depth [j] src.declared[j]? .null w ()).outcome
      (src.source.constructCell src.depth [j] src.declared[j]? .null w ()).built.ownedRecords
      (src.source.constructCell src.depth [j] src.declared[j]? .null w ()).world := by
    intro j _ w
    rw [ValueSource.planAt]
    cases atIndex : src.values[j]? with
    | none => exact writes_missing ((src.valueAt?_single j).trans atIndex) w
    | some v =>
      have enough := ValueSource.depth_lt (List.mem_of_getElem? atIndex)
      rw [constructCell_eq_buildTop ((src.valueAt?_single j).trans atIndex) enough]
      exact writes_buildTop j src.declared[j]? v w
  have row := writes_buildRow count each w
  rw [← List.range_eq_range'] at row
  simp only [ValueSource.construct, Source.constructArray, empty]
  exact row

end RuntimeBridge
