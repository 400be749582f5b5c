/-
# Values survive the round trip

A value whose type is left open, or declared as what inspection finds, is built in its own kinds.  So
the choice between the two makes no difference to the cells, and decoding them gives the values back.

Main statements: `construct_decode`, with any number of things done in between, and `round_trip`.
-/
import RuntimeBridge.Proofs.Wire.Carry
namespace RuntimeBridge

/-! ## 1. Types of one's own -/

/-- The declared type leaves the type of the value open, or is what inspection finds. -/
def TypeInfo.Suits (info : TypeInfo) (v : Value) : Prop :=
  info.isAny = true ∨ info.agrees v.typeInfo = true

/-- Every declared type suits the value at its position. -/
def Suited (declared : List TypeInfo) (values : List Value) : Prop :=
  ∀ (i : Nat) info v, declared[i]? = some info → values[i]? = some v → info.Suits v

theorem suited_of_open {declared : List TypeInfo} {values : List Value}
    (opened : ∀ info ∈ declared, info.isAny = true) : Suited declared values :=
  fun _ info _ declares _ => .inl (opened info (List.mem_of_getElem? declares))

namespace Value

/-- Leaves keep their kinds under a declared one that changes none of them. -/
theorem sharedKind_under {declared : Option BaseKind} {items : List Value}
    (same : ∀ leaf ∈ leavesOf items, leaf.leafKind.under declared = leaf.leafKind) :
    (sharedKind items).under declared = sharedKind items := by
  by_cases mixed : sharedKind items = .any
  · rw [mixed, BaseKind.under_any]
  · cases found : leavesOf items with
    | nil => simp [sharedKind, found] at mixed
    | cons first rest =>
      have mem : first ∈ leavesOf items := found ▸ List.mem_cons_self
      rw [← leafKind_eq_sharedKind mixed mem]
      exact same first mem

theorem buildItems_congr {d e : Option BaseKind} {items : List Value}
    (same : ∀ v ∈ items, ∀ path w, v.build d path w = v.build e path w) (path : IndexPath)
    (flat : Bool) (i : Nat) (w : World) :
    buildItems d path flat i items w = buildItems e path flat i items w := by
  induction items generalizing i w with
  | nil => rfl
  | cons v vs ih =>
    simp only [buildItems_cons, same v List.mem_cons_self,
      ih fun u mem => same u (List.mem_cons_of_mem _ mem)]

theorem build_eq_of_same {declared : Option BaseKind} {v : Value}
    (same : ∀ leaf ∈ v.leaves, leaf.leafKind.under declared = leaf.leafKind) (path : IndexPath)
    (w : World) : v.build declared path w = v.build none path w := by
  induction v using induct generalizing path w with
  | leaf v leaf =>
    rw [build_leaf leaf, build_leaf leaf, same v (by simp [leaves_of_leaf leaf])]
    rfl
  | array items ih =>
    rw [leaves_array] at same
    rw [build_array, build_array, sharedKind_under same]
    have rows := buildItems_congr (fun v mem path w => ih v mem
      (fun leaf inside => same leaf (leaves_subset mem inside)) path w) path false 0 w
    rw [rows]
    rfl

/-- A declared type that suits the value is its own, or leaves that open. -/
theorem topType_of_suits {v : Value} {declared : Option TypeInfo}
    (suits : ∀ info, declared = some info → info.Suits v) :
    (v.topType declared).tag = v.typeInfo.tag ∧
      (v.topType declared).dimensions = v.typeInfo.dimensions := by
  cases declared with
  | none => exact ⟨rfl, rfl⟩
  | some info =>
    rw [topType]
    split
    next => exact ⟨rfl, rfl⟩
    next concrete =>
      rcases suits info rfl with isAny | agrees
      · exact absurd isAny concrete
      · simpa [TypeInfo.agrees] using agrees

/-- What a suiting type declares of the leaves is their own kind. -/
theorem declaredLeaf?_of_suits {items : List Value} {declared : Option TypeInfo}
    (suits : ∀ info, declared = some info → info.Suits (array items)) :
    declaredLeaf? declared = none ∨
      declaredLeaf? declared = some (sharedKind items) ∧ sharedKind items ≠ .any := by
  cases declared with
  | none => exact .inl rfl
  | some info =>
    rcases suits info rfl with isAny | agrees
    · exact .inl (by simp [declaredLeaf?, TypeInfo.leafKind?, TypeInfo.isAny_base isAny])
    · have tag : info.tag = (TypeTag.ofKind (sharedKind items)).withArray := by
        simp only [TypeInfo.agrees, typeInfo_array, TypeInfo.ofArray, Bool.and_eq_true,
          beq_iff_eq] at agrees
        exact agrees.1
      by_cases mixed : sharedKind items = .any
      · exact .inl (by simp [declaredLeaf?, TypeInfo.leafKind?, tag, mixed, TypeTag.isAny_ofKind])
      · refine .inr ⟨?_, mixed⟩
        simp [declaredLeaf?, TypeInfo.leafKind?, tag, mixed, TypeTag.isAny_ofKind,
          TypeTag.kind?_ofKind]

/-- **Under a type of its own a value is built in its own kinds.** -/
theorem buildTop_eq_build {v : Value} {declared : Option TypeInfo} (i : Nat)
    (suits : ∀ info, declared = some info → info.Suits v) (w : World) :
    v.buildTop i declared .null w = v.build none [i] w := by
  obtain ⟨tag, dims⟩ := topType_of_suits suits
  cases array : v.items? with
  | none =>
    rw [typeInfo_of_leaf array] at tag dims
    have wire : (v.topType declared).wireTag = .ofKind v.leafKind := by
      rw [TypeInfo.wireTag, dims, tag]
      rfl
    simp [buildTop, wire, TypeTag.kind?_ofKind, build_leaf array, BaseKind.under]
  | some items =>
    obtain rfl := eq_array_of_items? array
    rw [typeInfo_array] at tag dims
    have wire : ((Value.array items).topType declared).wireTag =
        (TypeTag.ofKind (sharedKind items)).withArray := by
      simp only [TypeInfo.wireTag, tag, TypeInfo.ofArray, TypeTag.withArray_withArray_ofKind,
        ite_self]
    have own := declaredLeaf?_of_suits suits
    have leaf : topLeaf declared items = sharedKind items := by
      rcases own with missing | ⟨found, -⟩
      · rw [topLeaf, missing, Option.getD_none]
      · rw [topLeaf, found, Option.getD_some]
    have same : ∀ v ∈ leavesOf items, v.leafKind.under (declaredLeaf? declared) = v.leafKind := by
      intro v mem
      rcases own with missing | ⟨found, known⟩
      · rw [missing]
        rfl
      · rw [found, leafKind_eq_sharedKind known mem, BaseKind.under_self]
    have rows := buildItems_congr (fun v mem path w =>
      build_eq_of_same (fun leaf inside => same leaf (leaves_subset mem inside)) path w)
      [i] false 0 w
    simp only [buildTop, wire, TypeTag.isKnown_withArray_ofKind, Bool.not_true, Bool.false_eq_true,
      if_false, TypeTag.isArray_withArray_ofKind, if_true, array, World.freeCell_null, leaf]
    rw [closeArray_inspected dims, rows, build_array]
    rfl

end Value

/-! ## 2. Lists of values -/

/-- Values under suiting types are built one by one in their own kinds, so what was declared for them
makes no difference. -/
theorem construct_eq {values : List Value} {declared : List TypeInfo} {a : CellArray}
    (suited : Suited declared values) (fresh : a.cells = List.replicate values.length .null)
    (w : World) :
    ValueSource.construct ⟨values, declared⟩ a w =
      let row := Value.buildItems none [] false 0 values w
      (row.outcome, { a with cells := row.built }, row.world) := by
  let src : ValueSource := ⟨values, declared⟩
  have steps : ∀ (j : Nat) v w, values[j]? = some v →
      src.source.constructCell src.depth [0 + j] src.declared[0 + j]? .null w () =
        Source.checkElement ([] ++ [0 + j]) false (v.build none ([] ++ [0 + j]) w) := by
    intro j v w atIndex
    have enough : v.depth < src.depth := ValueSource.depth_lt (List.mem_of_getElem? atIndex)
    rw [Nat.zero_add, List.nil_append, Source.checkElement_nested,
      constructCell_eq_buildTop ((src.valueAt?_single j).trans atIndex) enough]
    exact Value.buildTop_eq_build j (fun info found => suited j info v found atIndex) w
  have row : buildRow
      (fun i c w s => src.source.constructCell src.depth [i] src.declared[i]? c w s) 0
      (List.replicate values.length .null) w () =
      Value.buildItems none [] false 0 values w :=
    buildRow_eq steps w
  simp only [ValueSource.construct, Source.constructArray, fresh]
  rw [row]

/-- **Construction and decoding.**  Values under suiting types are constructed just when their leaves
can be sent.  The cells are then those of the values but for what is minted, and from then on they are
decoded as the values, whatever else is registered. -/
theorem construct_decode {values : List Value} {declared : List TypeInfo} {a : CellArray}
    (suited : Suited declared values) (fresh : a.cells = List.replicate values.length .null)
    (returns : ∀ leaf ∈ Value.leavesOf values, leaf.Returns) (w : World) :
    let r := ValueSource.construct ⟨values, declared⟩ a w
    (r.1 = .ok () ↔ ∀ leaf ∈ Value.leavesOf values, leaf.Sendable) ∧ w.Keeps r.2.2 ∧
      (r.1 = .ok () →
        r.2.1.cells.map Cell.anonymous = values.map Value.skeleton ∧
        ∀ later, r.2.2.Keeps later → ∀ slots, ∃ b after,
          later.decode r.2.1.cells slots = (.ok b, after) ∧ later.Keeps after ∧
          b.slots.map Value.anonymous = values.map Value.anonymous ++
            List.replicate (slots - values.length) .null) := by
  simp only [construct_eq suited fresh]
  have row := carried_row (fun v (mem : v ∈ values) path w => carried_build
    (fun leaf inside => returns leaf (Value.leaves_subset mem inside)) path w) [] w
  refine ⟨row.ok_iff, row.keeps, fun ok => ⟨row.form ok, fun later keeps slots => ?_⟩⟩
  obtain ⟨us, used, decoded, same⟩ := row.back ok later keeps [] 0 later.supply
  have len : (Value.buildItems none [] false 0 values w).built.length = values.length :=
    (Value.buildItems_ok ok).1
  have whole := later.decode_eq (Value.buildItems none [] false 0 values w).built slots
  rw [decoded] at whole
  refine ⟨_, _, whole, World.keeps_of_objects_eq rfl, ?_⟩
  rw [List.map_append, same, len, List.map_replicate]
  rfl

/-- **Round trip.**  Values that return, under types that are left open or found by inspection, position
by position, are constructed just when no text holds NUL and no signature is too long.  Decoding then
gives the same values: the same bits, texts, objects and functions, and handles of other runtimes with
the same records.  Any other such choice of types comes to the same, and apart from what is minted the
cells are the same from any state of the process. -/
theorem round_trip (values : List Value) (returns : ∀ leaf ∈ Value.leavesOf values, leaf.Returns)
    (declared : List TypeInfo) (suited : Suited declared values) (a : CellArray)
    (fresh : a.cells = List.replicate values.length .null) (w : World) :
    let r := ValueSource.construct ⟨values, declared⟩ a w
    (r.1 = .ok () ↔ ∀ leaf ∈ Value.leavesOf values, leaf.Sendable) ∧
      (∀ declared', Suited declared' values →
        ValueSource.construct ⟨values, declared'⟩ a w = r) ∧
      (r.1 = .ok () →
        (∀ slots ≤ values.length, ∃ b after, r.2.2.decode r.2.1.cells slots = (.ok b, after) ∧
          b.slots.map Value.anonymous = values.map Value.anonymous) ∧
        ∀ declared' a' w', Suited declared' values →
          a'.cells = List.replicate values.length .null →
          (ValueSource.construct ⟨values, declared'⟩ a' w').2.1.cells.map Cell.anonymous =
            r.2.1.cells.map Cell.anonymous) := by
  obtain ⟨ok_iff, -, sent⟩ := construct_decode suited fresh returns w
  refine ⟨ok_iff, fun declared' suited' => ?_,
    fun ok => ⟨fun slots few => ?_, fun declared' a' w' suited' fresh' => ?_⟩⟩
  · exact (construct_eq suited' fresh w).trans (construct_eq suited fresh w).symm
  · obtain ⟨b, after, decoded, -, same⟩ := (sent ok).2 _ (.refl _) slots
    refine ⟨b, after, decoded, ?_⟩
    rwa [Nat.sub_eq_zero_of_le few, List.replicate_zero, List.append_nil] at same
  · obtain ⟨ok_iff', -, sent'⟩ := construct_decode suited' fresh' returns w'
    rw [(sent' (ok_iff'.mpr (ok_iff.mp ok))).1, (sent ok).1]

/-- An object, a text and a handle of another runtime in nested arrays, and a function. -/
def mixedValues : List Value :=
  [.array [.array [.object (.mk 7 (.flag true)), .null], .string .w16 "ab",
      .foreign ⟨8, ⟨5, 1, some .owner⟩⟩],
    .callable (.native ⟨9, "f", [.ofTag .any], []⟩)]

theorem returns_mixedValues : ∀ leaf ∈ Value.leavesOf mixedValues, leaf.Returns := by
  simp [mixedValues, Value.leavesOf, Value.leaves, Value.Returns, HandleRecord.isNull,
    HandleRecord.isLocal, localRuntimeId]

theorem sendable_mixedValues : ∀ leaf ∈ Value.leavesOf mixedValues, leaf.Sendable := by
  simp [mixedValues, Value.leavesOf, Value.leaves, Value.Sendable, holdsNul, Callable.params,
    Callable.retvals, signatureLimit]

theorem round_trip_mixedValues :
    ∃ b after,
      (ValueSource.construct ⟨mixedValues, [.ofTag .any]⟩ { cells := [.null, .null] } {}).2.2.decode
        (ValueSource.construct ⟨mixedValues, [.ofTag .any]⟩
          { cells := [.null, .null] } {}).2.1.cells 2 = (.ok b, after) ∧
      b.slots.map Value.anonymous = mixedValues.map Value.anonymous := by
  have sent := round_trip mixedValues returns_mixedValues [.ofTag .any]
    (suited_of_open (by simp [TypeInfo.isAny, TypeInfo.ofTag, TypeTag.isAny]))
    { cells := [.null, .null] } rfl {}
  exact (sent.2.2 (sent.1.mpr sendable_mixedValues)).1 2 (by decide)

end RuntimeBridge
