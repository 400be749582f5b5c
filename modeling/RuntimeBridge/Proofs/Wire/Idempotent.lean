/-
# Marshaling twice

Constructing values under declared types and decoding them may convert them: integers change their
width, plain values are wrapped as objects, what is declared null is dropped.  Values that came back
are settled and fit the declared types, so the second time nothing is converted.  They are
constructed again unless one of them is a function of this runtime whose signature is too long for
the wire: a foreign callable with a short signature may have stood for it before.

Main statement: `marshal_idempotent`, with anything registered or released in between.
-/
import RuntimeBridge.Proofs.Wire.Settled
import RuntimeBridge.Proofs.Call.Buffers
namespace RuntimeBridge

/-! ## 1. What can be built -/

namespace Value

theorem content_put_ok_iff {v : Value} (leaf : v.items? = none) (path : IndexPath) (w : World) :
    (v.content.put path .null w).outcome = .ok () ↔ v.Sendable := by
  cases v with
  | array items => simp [items?] at leaf
  | string width text =>
    simp only [content, LeafContent.put, Cell.setText?, Sendable]
    cases holdsNul text <;> simp [Source.filled, Source.refuse]
  | callable c =>
    simp only [content, LeafContent.put, Sendable]
    rw [← Callable.isShort_iff]
    cases short : c.isShort with
    | false =>
      obtain ⟨e, refused⟩ := toRecord_of_long short w
      simp [refused, Source.refuse]
    | true =>
      cases c with
      | native f => simp [toRecord_native_of_short short, Source.filled]
      | foreign c => simp [toRecord_foreign_of_short short, Source.filled]
  | _ => exact iff_of_true rfl trivial

/-- **A value is built in its own kinds** just when its leaves can be sent. -/
theorem build_ok_iff (v : Value) (path : IndexPath) (w : World) :
    (v.build none path w).outcome = .ok () ↔ ∀ leaf ∈ v.leaves, leaf.Sendable := by
  induction v using induct generalizing path w with
  | leaf v leaf =>
    rw [build_leaf leaf, fill, BaseKind.under, asLeaf_leafKind path leaf, leaves_of_leaf leaf,
      List.forall_mem_singleton]
    exact content_put_ok_iff leaf path w
  | array items ih =>
    rw [build_array, closeArray_outcome, leaves_array, leavesOf_eq_flatMap, List.forall_mem_flatMap]
    exact buildItems_ok_iff ih path w

end Value

/-! ## 2. The same value again -/

theorem Value.given_of_settled {w : World} {v : Value} (settled : v.Settled w) : v.Given w := by
  cases v with
  | callable c =>
    cases c with
    | native f => trivial
    | foreign c => exact settled.2.2.2.2
  | _ => trivial

/-- A foreign callable that leads to no function of this runtime is decoded as itself. -/
theorem sameAgain_foreign {c : ForeignCallable} {w later : World}
    (settled : (Value.callable (.foreign c)).Settled w) (along : w.Extends later)
    (path : IndexPath) (supply : Nat) :
    (Cell.ofCallable c.record).decode later path supply = (.ok (.callable (.foreign c)), supply) := by
  obtain ⟨-, params, retvals, nothing, -⟩ := Value.Settled.follows settled along.follows
  rw [decode_ofCallable]
  simp only [CallableRecord.callable?, ForeignCallable.record, Option.map_some, nothing]
  rw [params, retvals]

/-- **A settled leaf is sent as it is.** -/
theorem sameAgain_leaf {v : Value} {w : World} (leaf : v.items? = none) (settled : v.Settled w)
    (path : IndexPath) :
    Marshalled World.Extends SameAgain False v w (v.build none path w) := by
  have given : ∀ leaf ∈ v.leaves, leaf.Given w := by
    rw [Value.leaves_of_leaf leaf, List.forall_mem_singleton]
    exact Value.given_of_settled settled
  refine ⟨(settled_build none given path (.refl w)).along, fun ok later along path' supply => ?_⟩
  have back : v.Returns → Decoded (SameAgain later v) False
      ((v.build none path w).built.decode later path' supply) := by
    intro returns
    obtain ⟨u, used, decoded, same⟩ :=
      (carried_leaf leaf returns path w).back ok later along.keeps path' supply
    rw [decoded]
    exact same
  cases v with
  | foreign h => exact back settled
  | callable c =>
    cases c with
    | native f => exact back trivial
    | foreign c =>
      have built : (Value.callable (.foreign c)).build none path w =
          Source.filled (Cell.ofCallable c.record, w) () := by
        rw [Value.build_leaf leaf, Value.fill, BaseKind.under, Value.asLeaf_leafKind path leaf]
        simp only [Value.content, LeafContent.put, toRecord_foreign_of_short settled.1]
        rfl
      rw [built] at along ⊢
      rw [Source.filled, sameAgain_foreign settled along path' supply]
      exact rfl
  | _ => exact back trivial

/-- Settled values are sent as they are, to any depth. -/
theorem sameAgain_build {v : Value} {origin w : World}
    (settled : ∀ leaf ∈ v.leaves, leaf.Settled origin) (path : IndexPath)
    (start : origin.Extends w) :
    Marshalled World.Extends SameAgain False v w (v.build none path w) := by
  refine marshalled_build .refl .trans (fun later vs us length each => ?_)
    (fun leaf mem isLeaf path w start => ?_) path start
  · rw [SameAgain, Value.anonymous_array, Value.anonymous_array, sameAgain_row length each]
  · exact sameAgain_leaf isLeaf ((settled leaf mem).follows start.follows) path

/-! ## 3. The top level -/

/-- Sent under a declared type a value comes back as it is, if its leaves can be sent. -/
structure SentAgain (declared : Option TypeInfo) (i : Nat) (v : Value) (origin : World) : Prop where
  marshalled : ∀ w, origin.Extends w →
    Marshalled World.Extends SameAgain False v w (v.buildTop i declared .null w)
  ok_iff : ∀ w, (v.buildTop i declared .null w).outcome = .ok () ↔
    ∀ leaf ∈ v.leaves, leaf.Sendable

/-- A row of a value that fits a declared type is one of leaves if it is taken as one-dimensional. -/
theorem leaves_of_is1D {info : TypeInfo} {items : List Value}
    (one : info.dimensions = 1 → ∀ item ∈ items, item.items? = none)
    (flat : ValueSource.is1D info items = true) : ∀ item ∈ items, item.items? = none := by
  rw [ValueSource.is1D] at flat
  split at flat
  next declares => exact one declares
  next =>
    split at flat
    next => cases flat
    next => simpa using flat

/-- The elements of an array that fits a declared type are built in their own kinds. -/
theorem buildItems_of_fits {info : TypeInfo} {items : List Value}
    (kinds : ∀ leaf ∈ Value.leavesOf items, leaf.leafKind.under info.leafKind? = leaf.leafKind)
    (one : info.dimensions = 1 → ∀ item ∈ items, item.items? = none) (i : Nat) (w : World) :
    Value.buildItems info.leafKind? [i] (ValueSource.is1D info items) 0 items w =
      Value.buildItems none [i] false 0 items w := by
  have own := Value.buildItems_congr (fun v mem path w => Value.build_eq_of_same
    (fun leaf inside => kinds leaf (Value.leaves_subset mem inside)) path w) [i]
    (ValueSource.is1D info items) 0 w
  rw [own]
  cases flat : ValueSource.is1D info items with
  | false => rfl
  | true => exact Value.buildItems_flat (leaves_of_is1D one flat) [i] 0 w

/-- **A value that fits its declared type** is sent as it is. -/
theorem sentAgain_of_fits {info : TypeInfo} (concrete : info.isAny = false) {v : Value}
    (fits : info.Fits v) {origin : World} (settled : ∀ leaf ∈ v.leaves, leaf.Settled origin)
    (i : Nat) : SentAgain (some info) i v origin := by
  obtain ⟨known, form⟩ := fits
  cases isArray : info.wireTag.isArray with
  | false =>
    rw [isArray, if_neg Bool.false_ne_true] at form
    obtain ⟨kind, declares, leaf, ofKind⟩ := form
    have top : ∀ w, v.buildTop i (some info) .null w = v.fill [i] kind .null w := by
      simp [Value.buildTop, Value.topType_of_concrete concrete, known, isArray, declares]
    rcases ofKind with rfl | ⟨rfl, rfl⟩
    · have own : ∀ w, v.fill [i] v.leafKind .null w = v.build none [i] w := fun w =>
        (Value.build_leaf leaf none [i] w).symm
      refine ⟨fun w start => ?_, fun w => ?_⟩ <;> rw [top, own]
      · exact sameAgain_build settled [i] start
      · exact v.build_ok_iff [i] w
    · -- a null in a handle cell is the handle of nothing, and comes back as null
      refine ⟨fun w start => ?_, fun w => ?_⟩ <;> rw [top]
      · exact ⟨.refl w, fun _ later _ path supply => (rfl : Value.null.anonymous = .null)⟩
      · simp [Value.fill, Value.asLeaf, Value.offer, LeafContent.put, Source.filled, Value.leaves,
          Value.Sendable]
  | true =>
    rw [isArray, if_pos rfl] at form
    obtain ⟨items, rfl, kinds, one⟩ := form
    rw [Value.leaves_array] at settled
    have top : ∀ w, ∃ dimensions, (Value.array items).buildTop i (some info) .null w =
        closeArray (Value.topLeaf (some info) items) dimensions
          (Value.buildItems none [i] false 0 items w) := by
      intro w
      simp only [Value.buildTop, Value.topType_of_concrete concrete, known, isArray, Value.items?,
        Bool.not_true, Bool.false_eq_true, if_false, if_true, declaredLeaf?, Option.bind_some,
        World.freeCell_null, buildItems_of_fits kinds one]
      exact ⟨_, rfl⟩
    refine ⟨fun w start => ?_, fun w => ?_⟩ <;> obtain ⟨dimensions, same⟩ := top w <;> rw [same]
    · have row := marshalledRow_items .refl .trans start
        (fun v (mem : v ∈ items) path w start => sameAgain_build
          (fun leaf inside => settled leaf (Value.leaves_subset mem inside)) path start)
        [i] false
      refine marshalled_closeArray row (fun _ later us length each => ?_) _ _
      rw [SameAgain, Value.anonymous_array, Value.anonymous_array, sameAgain_row length each]
    · have built := (Value.array items).build_ok_iff [i] w
      rw [Value.build_array, closeArray_outcome] at built
      rw [closeArray_outcome]
      exact built

/-- **A settled value** that fits its declared type, if it has one, is sent as it is. -/
theorem sentAgain_buildTop {declared : Option TypeInfo} {v : Value} {origin : World}
    (settled : ∀ leaf ∈ v.leaves, leaf.Settled origin)
    (fits : ∀ info, declared = some info → info.isAny = false → info.Fits v) (i : Nat) :
    SentAgain declared i v origin := by
  by_cases opened : ∀ info, declared = some info → info.isAny = true
  · have own := Value.buildTop_eq_build (v := v) i (fun info here => .inl (opened info here))
    refine ⟨fun w start => ?_, fun w => ?_⟩ <;> rw [own]
    · exact sameAgain_build settled [i] start
    · exact v.build_ok_iff [i] w
  · obtain ⟨info, rfl, concrete⟩ : ∃ info, declared = some info ∧ info.isAny = false := by
      simpa using opened
    exact sentAgain_of_fits concrete (fits info rfl concrete) settled i

/-! ## 4. Arrays of values -/

section Construct

variable {values : List Value} {declared : List TypeInfo}

/-- Each position is built from its value and its declared type. -/
theorem construct_step {j : Nat} {v : Value} (atIndex : values[j]? = some v) (w : World) :
    let src : ValueSource := ⟨values, declared⟩
    src.source.constructCell src.depth [0 + j] src.declared[0 + j]? .null w () =
      v.buildTop j declared[j]? .null w := by
  intro src
  rw [Nat.zero_add]
  exact constructCell_eq_buildTop ((src.valueAt?_single j).trans atIndex)
    (ValueSource.depth_lt (List.mem_of_getElem? atIndex)) .null w

/-- What construction did with a fresh array, as a row. -/
def constructedRow (values : List Value) (declared : List TypeInfo) (a : CellArray) (w : World) :
    Built Unit (List Cell) :=
  let r := ValueSource.construct ⟨values, declared⟩ a w
  ⟨r.1, r.2.1.cells, r.2.2, ()⟩

/-- **An array is marshalled position by position.** -/
theorem marshalledRow_construct {good : Nat → World → Value → Value → Prop} {mayFail : Prop}
    {a : CellArray} (fresh : a.cells = List.replicate values.length .null) {origin w : World}
    (start : origin.Extends w)
    (each : ∀ (j : Nat) v w, values[j]? = some v → origin.Extends w →
      Marshalled World.Extends (good j) mayFail v w (v.buildTop j declared[j]? .null w)) :
    MarshalledRow World.Extends good mayFail values 0 w (constructedRow values declared a w) := by
  simp only [constructedRow, ValueSource.construct, Source.constructArray, fresh]
  refine marshalledRow_of_steps .refl .trans start fun j v w atIndex start => ?_
  rw [construct_step atIndex]
  exact (Nat.zero_add j).symm ▸ each j v w atIndex start

theorem construct_ok_iff {can : Value → Prop}
    (each : ∀ (j : Nat) v w, values[j]? = some v →
      ((v.buildTop j declared[j]? .null w).outcome = .ok () ↔ can v))
    {a : CellArray} (fresh : a.cells = List.replicate values.length .null) (w : World) :
    (ValueSource.construct ⟨values, declared⟩ a w).1 = .ok () ↔ ∀ v ∈ values, can v := by
  simp only [ValueSource.construct, Source.constructArray, fresh]
  refine buildRow_ok_iff (fun j v w atIndex => ?_) w
  rw [construct_step atIndex]
  exact each j v w atIndex

theorem length_constructedRow (declared : List TypeInfo) {a : CellArray}
    (fresh : a.cells = List.replicate values.length .null) (w : World) :
    (constructedRow values declared a w).built.length = values.length := by
  simp only [constructedRow, ValueSource.construct, Source.constructArray, length_buildRow, fresh,
    List.length_replicate]

/-- Decoding as many positions as there are cells gives the values of the cells, and reads no more than
the objects table. -/
theorem decode_of_row {good : List Value → Prop} {mayFail : Prop} {cells : List Cell}
    {w : World} (row : Decoded good mayFail (Cell.decodeRow w cells [] 0 w.supply)) :
    match w.decode cells cells.length with
    | (.ok b, after) => good b.slots ∧ after.objects = w.objects
    | (.error _, _) => mayFail := by
  have whole := w.decode_eq cells cells.length
  rcases decoded : Cell.decodeRow w cells [] 0 w.supply with ⟨stop | vs, used⟩ <;>
    rw [decoded] at whole row
  · rw [whole]
    exact row
  · rw [whole]
    simp only [Nat.sub_self, List.replicate_zero, List.append_nil]
    exact ⟨row, trivial⟩

end Construct

/-! ## 5. Twice -/

/-- A settled leaf can be sent unless it is a function with a long signature. -/
theorem sendable_iff_of_settled {w : World} {leaf : Value} (settled : leaf.Settled w) :
    leaf.Sendable ↔ ∀ f, leaf = .callable (.native f) → (Callable.native f).isShort = true := by
  cases leaf with
  | string width text => exact iff_of_true settled (fun f same => by cases same)
  | callable c =>
    cases c with
    | native f =>
      rw [Value.Sendable, ← Callable.isShort_iff]
      simp
    | foreign c =>
      exact iff_of_true ((Callable.isShort_iff _).mp settled.1) (fun f same => by cases same)
  | _ => exact iff_of_true trivial (fun f same => by cases same)

/-- **The first time**: what comes back is settled and fits its declared type. -/
theorem settles_of_decoded {values : List Value} {declared : List TypeInfo} {w : World}
    (given : ∀ leaf ∈ Value.leavesOf values, leaf.Given w) {a sent : CellArray} {w₁ w₂ : World}
    {b : ValueBuilder} (fresh : a.cells = List.replicate values.length .null)
    (constructed : ValueSource.construct ⟨values, declared⟩ a w = (.ok (), sent, w₁))
    (decoded : w₁.decode sent.cells values.length = (.ok b, w₂)) :
    b.slots.length = values.length ∧ w₁.Follows w₂ ∧
      ∀ (j : Nat) u, b.slots[j]? = some u → ∃ v, SettlesTop declared[j]? w₁ v u := by
  have row : MarshalledRow World.Extends (fun j => SettlesTop declared[j]?) True values 0 w
      (constructedRow values declared a w) :=
    marshalledRow_construct fresh (.refl w) fun j v w' atIndex start => settled_buildTop
      (fun leaf inside => given leaf (Value.leaves_subset (List.mem_of_getElem? atIndex) inside)) j
      start
  have cells := length_constructedRow declared fresh w
  simp only [constructedRow, constructed] at row cells
  have back := decode_of_row (row.back rfl w₁ (.refl w₁) [] 0 w₁.supply)
  rw [cells, decoded] at back
  obtain ⟨⟨length, settles⟩, objects⟩ := back
  refine ⟨length, (World.extends_of_objects_eq objects).follows, fun j u atIndex => ?_⟩
  have inRange := (List.getElem?_eq_some_iff.mp atIndex).1
  exact ⟨_, Nat.zero_add j ▸ settles j _ u (List.getElem?_eq_getElem (length ▸ inRange)) atIndex⟩

/-- **The second time**: what is sent as it is comes back, if its leaves can be sent. -/
theorem construct_again {us : List Value} {declared : List TypeInfo} {w : World}
    (again : ∀ (j : Nat) u, us[j]? = some u → SentAgain declared[j]? j u w) {a : CellArray}
    (fresh : a.cells = List.replicate us.length .null) :
    let r := ValueSource.construct ⟨us, declared⟩ a w
    (r.1 = .ok () ↔ ∀ leaf ∈ Value.leavesOf us, leaf.Sendable) ∧
      (r.1 = .ok () → ∃ b w', r.2.2.decode r.2.1.cells us.length = (.ok b, w') ∧
        b.slots.map Value.anonymous = us.map Value.anonymous) := by
  refine ⟨?_, fun ok => ?_⟩
  · rw [construct_ok_iff (fun j u w atIndex => (again j u atIndex).ok_iff w) fresh w,
      Value.leavesOf_eq_flatMap, List.forall_mem_flatMap]
  · have row := marshalledRow_construct fresh (.refl w)
      fun j u w atIndex => (again j u atIndex).marshalled w
    have back := decode_of_row (row.back ok _ (.refl _) [] 0 _)
    rw [length_constructedRow declared fresh w] at back
    simp only [constructedRow] at back
    split at back
    next b w' decoded =>
      exact ⟨b, w', decoded, sameAgain_row back.1.1 fun j v u atValue => back.1.2 j v u atValue⟩
    next => exact absurd back id

/-- **Marshaling under declared types is idempotent.**  Values that were constructed under declared
types and decoded are constructed again under the same types just when no function of this runtime
among them has too long a signature, and then decoding gives the same values: the same bits, texts,
objects, functions and call points, and handles of other runtimes with the same records.  In between
more may be registered, and what was sent may be freed. -/
theorem marshal_idempotent {values : List Value} {declared : List TypeInfo} {w : World}
    (given : ∀ leaf ∈ Value.leavesOf values, leaf.Given w) {a sent : CellArray} {w₁ w₂ : World}
    {b : ValueBuilder} (fresh : a.cells = List.replicate values.length .null)
    (constructed : ValueSource.construct ⟨values, declared⟩ a w = (.ok (), sent, w₁))
    (decoded : w₁.decode sent.cells values.length = (.ok b, w₂)) {w₃ : World}
    (follows : w₂.Follows w₃) {a' : CellArray}
    (fresh' : a'.cells = List.replicate values.length .null) :
    let again := ValueSource.construct ⟨b.slots, declared⟩ a' w₃
    b.slots.length = values.length ∧
      (again.1 = .ok () ↔ ∀ f, .callable (.native f) ∈ Value.leavesOf b.slots →
        (Callable.native f).isShort = true) ∧
      (again.1 = .ok () → ∃ b' w₄, again.2.2.decode again.2.1.cells values.length = (.ok b', w₄) ∧
        b'.slots.map Value.anonymous = b.slots.map Value.anonymous) := by
  obtain ⟨length, along, settles⟩ := settles_of_decoded given fresh constructed decoded
  have settled : ∀ leaf ∈ Value.leavesOf b.slots, leaf.Settled w₃ := by
    intro leaf inside
    obtain ⟨u, mem, inside⟩ := List.mem_flatMap.mp (Value.leavesOf_eq_flatMap _ ▸ inside)
    obtain ⟨j, atIndex⟩ := List.getElem?_of_mem mem
    obtain ⟨v, settles, -⟩ := settles j u atIndex
    exact (settles leaf inside).follows (along.trans follows)
  have again : ∀ (j : Nat) u, b.slots[j]? = some u → SentAgain declared[j]? j u w₃ := by
    intro j u atIndex
    obtain ⟨v, -, fits⟩ := settles j u atIndex
    exact sentAgain_buildTop (fun leaf inside => settled leaf
      (Value.leaves_subset (List.mem_of_getElem? atIndex) inside)) fits j
  rw [← length] at fresh' ⊢
  obtain ⟨ok_iff, back⟩ := construct_again again fresh'
  refine ⟨rfl, ok_iff.trans ⟨fun sendable f mem => ?_, fun short leaf mem => ?_⟩, back⟩
  · exact (sendable_iff_of_settled (settled _ mem)).mp (sendable _ mem) f rfl
  · exact (sendable_iff_of_settled (settled leaf mem)).mpr fun f same => short f (same ▸ mem)

/-- A function with so many parameters. -/
def takingAny (params : Nat) : NativeFunction :=
  ⟨0, "f", List.replicate params (.ofTag .any), []⟩

/-- Its call point, and the process in which it was exported. -/
def exportedAny (params : Nat) : CallPoint × World :=
  ({} : World).exportFunction (takingAny params)

/-- A foreign callable over the call point, with one parameter. -/
def calledWithOne (params : Nat) : Value :=
  .callable (.foreign ⟨(exportedAny params).1, [.ofTag .any], []⟩)

theorem given_calledWithOne (params : Nat) : (calledWithOne params).Given (exportedAny params).2 := by
  intro id here
  obtain rfl : 1 = id := Option.some.inj here
  exact Nat.one_lt_two

theorem given_leavesOf_calledWithOne (params : Nat) (plain : Value)
    (isPlain : ∀ leaf ∈ plain.leaves, leaf.Given (exportedAny params).2) :
    ∀ leaf ∈ Value.leavesOf [plain, calledWithOne params], leaf.Given (exportedAny params).2 := by
  simp only [Value.leavesOf, List.append_nil, List.forall_mem_append]
  refine ⟨isPlain, ?_⟩
  simpa [calledWithOne, Value.leaves] using given_calledWithOne params

/-- An array of an integer and a null. -/
def integerAndNull (k : IntKind) (fits : k.Fits 3) : Value :=
  .array [.scalar (.int k ⟨3, fits⟩), .null]

/-- The types of an array of wider integers and of a callable. -/
def widening : List TypeInfo := [.ofArray (.ofKind (.int .int32)) 1, .ofTag .callable]

/-- The integer is widened and the callable unwrapped the first time. -/
theorem marshal_idempotent_widened :
    let first := ValueSource.construct ⟨[integerAndNull .int8 (by decide), calledWithOne 1], widening⟩
      { cells := [.null, .null] } (exportedAny 1).2
    ∃ b w, first.2.2.decode first.2.1.cells 2 = (.ok b, w) ∧
      b.slots = [integerAndNull .int32 (by decide), .callable (.native (takingAny 1))] ∧
      (ValueSource.construct ⟨b.slots, widening⟩ { cells := [.null, .null] }
        (first.2.1.freeCells w).2).1 = .ok () := by
  intro first
  let b : ValueBuilder :=
    { slots := [integerAndNull .int32 (by decide), .callable (.native (takingAny 1))]
      shapes := [([0], ⟨2, 1, .any, none⟩)]
      supply := 1 }
  have given := given_leavesOf_calledWithOne 1 (integerAndNull .int8 (by decide))
    (by simp [integerAndNull, Value.leaves, Value.leavesOf, Value.Given])
  have constructed : first = (.ok (), first.2.1, first.2.2) := rfl
  have decoded : first.2.2.decode first.2.1.cells 2 =
      (.ok b, (first.2.2.decode first.2.1.cells 2).2) := rfl
  have freed := World.follows_releaseRecords (first.2.2.decode first.2.1.cells 2).2
    (Cell.ownedRecordsOf first.2.1.cells)
  refine ⟨b, _, decoded, rfl, ?_⟩
  refine (marshal_idempotent given rfl constructed decoded ?_ rfl).2.1.mpr ?_
  · rw [CellArray.freeCells_eq]
    exact ⟨freed.grows, freed.same⟩
  · simp [b, integerAndNull, Value.leavesOf, Value.leaves, Callable.isShort, Callable.params,
      Callable.retvals, takingAny, signatureLimit]

/-- **A function can come back that cannot be sent**, if a foreign callable with a short signature
stood for it. -/
theorem marshal_not_idempotent :
    ¬ ∀ (values : List Value) (declared : List TypeInfo) (w : World) (a sent : CellArray)
        (w₁ w₂ : World) (b : ValueBuilder), (∀ leaf ∈ Value.leavesOf values, leaf.Given w) →
      a.cells = List.replicate values.length .null →
      ValueSource.construct ⟨values, declared⟩ a w = (.ok (), sent, w₁) →
      w₁.decode sent.cells values.length = (.ok b, w₂) →
      (ValueSource.construct ⟨b.slots, declared⟩ a w₂).1 = .ok () := by
  intro always
  let first := ValueSource.construct ⟨[.null, calledWithOne 128], [.ofTag .null, .ofTag .callable]⟩
    { cells := [.null, .null] } (exportedAny 128).2
  let b : ValueBuilder :=
    { slots := [.null, .callable (.native (takingAny 128))], shapes := [], supply := 1 }
  have constructed : first = (.ok (), first.2.1, first.2.2) := rfl
  have decoded : first.2.2.decode first.2.1.cells 2 =
      (.ok b, (first.2.2.decode first.2.1.cells 2).2) := rfl
  have again := always _ _ _ _ _ _ _ b
    (given_leavesOf_calledWithOne 128 .null (by simp [Value.leaves, Value.Given])) rfl constructed
    decoded
  have own : ∀ (j : Nat) v w, b.slots[j]? = some v →
      ((v.buildTop j ([.ofTag .null, .ofTag .callable] : List TypeInfo)[j]? .null w).outcome =
        .ok () ↔ ∀ leaf ∈ v.leaves, leaf.Sendable) := by
    intro j v w atIndex
    rw [Value.buildTop_eq_build j, v.build_ok_iff]
    intro info declares
    rcases j with _ | _ | j
    · cases atIndex
      cases declares
      exact .inr rfl
    · cases atIndex
      cases declares
      exact .inr rfl
    · cases atIndex
  have sendable := (construct_ok_iff own rfl _).mp again (.callable (.native (takingAny 128)))
    (by simp [b]) _ (List.mem_singleton_self _)
  exact absurd sendable.1 (by simp [Callable.params, takingAny, signatureLimit])

end RuntimeBridge
