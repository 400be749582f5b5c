/-
# Integers under a declared kind

An integer may be declared as one of another kind, by itself or as a leaf of an array.  It arrives as
the same number or not at all.  The declared kind of an array reaches every integer in it, at whatever
depth and beside whatever leaves of other kinds; those are left as they are.

Leaves are built one after the other, so construction goes on up to the first that does not fit
(`build_outcome`), and what is read back is told leaf by leaf (`marshalled_inKind`).

Main statement: `integers_exact`.
-/
import RuntimeBridge.Proofs.Wire.Idempotent
namespace RuntimeBridge

/-! ## 1. Numbers that fit -/

namespace Value

/-- Integers of any kind, truth values, characters, nulls, and texts without NUL. -/
def IsPlain : Value → Prop
  | null | scalar (.int _ _) | scalar (.bool _) | scalar (.char _ _) => True
  | string _ text => holdsNul text = false
  | _ => False

/-- The value is no integer, or one that fits the kind. -/
def FitsIn (k : IntKind) (v : Value) : Prop :=
  ∀ n ∈ v.integer?, k.Fits n

instance (k : IntKind) (v : Value) : Decidable (v.FitsIn k) :=
  inferInstanceAs (Decidable (∀ n ∈ v.integer?, k.Fits n))

/-- The second value is the first with each integer in it as the same number of the kind `k`. -/
inductive InKind (k : IntKind) : Value → Value → Prop
  | integer {j : IntKind} {n : Fixed j} {m : Fixed k} (same : m.val = n.val) :
    InKind k (scalar (.int j n)) (scalar (.int k m))
  | other {v : Value} (leaf : v.items? = none) (noInteger : v.integer? = none) : InKind k v v
  | array {vs us : List Value} (length : us.length = vs.length)
    (each : ∀ (i : Nat) v u, vs[i]? = some v → us[i]? = some u → InKind k v u) :
    InKind k (array vs) (array us)

mutual

/-- The leaves of a value with their paths, from left to right. -/
def placed (path : IndexPath) : Value → List (IndexPath × Value)
  | array items => placedFrom path 0 items
  | v => [(path, v)]

/-- The leaves of the elements from index `i` on. -/
def placedFrom (path : IndexPath) : Nat → List Value → List (IndexPath × Value)
  | _, [] => []
  | i, v :: vs => v.placed (path ++ [i]) ++ placedFrom path (i + 1) vs

end

theorem placed_of_leaf {v : Value} (leaf : v.items? = none) (path : IndexPath) :
    v.placed path = [(path, v)] := by
  cases v <;> simp_all [items?, placed]

theorem map_placedFrom {items : List Value}
    (each : ∀ v ∈ items, ∀ path, (v.placed path).map Prod.snd = v.leaves) (path : IndexPath)
    (i : Nat) : (placedFrom path i items).map Prod.snd = leavesOf items := by
  induction items generalizing i with
  | nil => rfl
  | cons v vs ih =>
    rw [placedFrom, leavesOf, List.map_append, each v List.mem_cons_self,
      ih fun u mem => each u (List.mem_cons_of_mem _ mem)]

/-- Without their paths they are the leaves. -/
theorem map_placed (v : Value) (path : IndexPath) : (v.placed path).map Prod.snd = v.leaves := by
  induction v using induct generalizing path with
  | leaf v leaf => rw [placed_of_leaf leaf, leaves_of_leaf leaf]; rfl
  | array items ih => rw [placed, leaves_array, map_placedFrom ih]

/-- The first of some leaves that does not fit the kind. -/
def misfit? (k : IntKind) (leaves : List (IndexPath × Value)) : Option (IndexPath × Value) :=
  leaves.find? fun leaf => !decide (leaf.2.FitsIn k)

theorem misfit?_placed_eq_none_iff (k : IntKind) (v : Value) (path : IndexPath) :
    misfit? k (v.placed path) = none ↔ ∀ leaf ∈ v.leaves, leaf.FitsIn k := by
  rw [← map_placed v path, List.forall_mem_map, misfit?, List.find?_eq_none]
  simp

end Value

/-- Where construction stops at an integer that does not fit. -/
def Stop.outOfRange (k : IntKind) (path : IndexPath) : Stop :=
  ⟨.error (.marshal (.outOfRange (.path path) (.ofKind (.int k)))), path⟩

/-- How construction goes with some leaves: up to the first that does not fit. -/
def verdict (k : IntKind) (leaves : List (IndexPath × Value)) : Except Stop Unit :=
  match Value.misfit? k leaves with
  | some leaf => .error (.outOfRange k leaf.1)
  | none => .ok ()

theorem verdict_append (k : IntKind) (before behind : List (IndexPath × Value)) :
    verdict k (before ++ behind) =
      match verdict k before with
      | .error stop => .error stop
      | .ok () => verdict k behind := by
  simp only [verdict, Value.misfit?, List.find?_append]
  cases before.find? fun leaf => !decide (leaf.2.FitsIn k) <;> rfl

theorem verdict_singleton (k : IntKind) (path : IndexPath) (v : Value) :
    verdict k [(path, v)] = if v.FitsIn k then .ok () else .error (.outOfRange k path) := by
  by_cases fits : v.FitsIn k <;> simp [verdict, Value.misfit?, fits]

namespace Fixed

theorem eq_of_val {k : IntKind} {m n : Fixed k} (same : m.val = n.val) : m = n := by
  cases m
  cases n
  cases same
  rfl

end Fixed

/-! ## 2. Integers -/

section

variable {k : IntKind} {path : IndexPath} {w : World}

/-- A cell of an integer kind takes the number of an integer of any kind, if it fits. -/
theorem fill_int (v : Value) :
    v.fill path (.int k) .null w =
      match v.integer? with
      | none => Source.refuse path (ValueSource.mismatch path (.ofKind (.int k)) v) .null w ()
      | some n =>
        match Fixed.ofInt? k n with
        | none =>
          Source.refuse path (.marshal (.outOfRange (.path path) (.ofKind (.int k)))) .null w ()
        | some m => Source.filled (Cell.ofScalar (.int k m), w) () := by
  simp only [Value.fill, Value.asLeaf, ValueSource.scalarOf]
  cases v.integer? with
  | none => rfl
  | some n => cases fitted : Fixed.ofInt? k n <;> simp only [fitted] <;> rfl

theorem outcome_fill_int {v : Value} {n : Int} (number : v.integer? = some n) :
    (v.fill path (.int k) .null w).outcome =
      if k.Fits n then .ok () else .error (.outOfRange k path) := by
  rw [fill_int, number]
  by_cases fits : k.Fits n <;>
    simp [Fixed.ofInt?, fits, Source.filled, Source.refuse, Stop.outOfRange]

theorem fill_int_ok_iff {v : Value} :
    (v.fill path (.int k) .null w).outcome = .ok () ↔ ∃ m : Fixed k, v.integer? = some m.val := by
  cases number : v.integer? with
  | none => simp [fill_int, number, Source.refuse]
  | some n =>
    rw [outcome_fill_int number]
    by_cases fits : k.Fits n
    · simpa [fits] using ⟨⟨n, fits⟩, rfl⟩
    · have misses : ∀ m : Fixed k, n ≠ m.val := by
        rintro m rfl
        exact fits m.fits
      simp [fits, misses]

/-- Decoding gives the number of an integer, in the kind `k`. -/
def SameNumber (k : IntKind) (_ : World) (v u : Value) : Prop :=
  ∃ m : Fixed k, v.integer? = some m.val ∧ u = .scalar (.int k m)

/-- **An integer arrives as the same number** of the kind it is declared as. -/
theorem marshalled_fill_int (k : IntKind) (path : IndexPath) (v : Value) (w : World) :
    Marshalled World.Extends (SameNumber k) False v w (v.fill path (.int k) .null w) := by
  rw [fill_int]
  cases number : v.integer? with
  | none => exact marshalled_refused
  | some n =>
    simp only
    cases fitted : Fixed.ofInt? k n with
    | none => exact marshalled_refused
    | some m =>
      refine ⟨.refl w, fun _ later _ path supply => ?_⟩
      obtain ⟨u, used, decoded, same⟩ :=
        stands_scalar (.int k m) later later (.refl later) path supply
      simp only [Source.filled, decoded]
      rw [Fixed.ofInt?_eq_some_iff.mp fitted] at number
      cases u <;> cases same
      exact ⟨m, number, rfl⟩

/-! ## 3. Leaves of an array of integers -/

namespace Value

theorem IsPlain.leaf {v : Value} (plain : v.IsPlain) : v.items? = none := by
  cases v <;> first | rfl | exact absurd plain id

/-- Integers take the declared kind. -/
theorem build_int {v : Value} {n : Int} (number : v.integer? = some n) :
    v.build (some (.int k)) path w = v.fill path (.int k) .null w := by
  obtain ⟨j, x, rfl, -⟩ := eq_int_of_integer? number
  rfl

/-- Other leaves are built as if nothing were declared. -/
theorem build_plain {v : Value} (plain : v.IsPlain) (noInteger : v.integer? = none) :
    v.build (some (.int k)) path w = v.build none path w := by
  rw [build_leaf plain.leaf, build_leaf plain.leaf]
  -- an integer kind takes over numeric leaves only, and numbers in floating point are not plain
  cases v with
  | scalar s =>
    cases s with
    | int j x => cases noInteger
    | bool b => rfl
    | char width c => rfl
    | _ => exact absurd plain id
  | null => rfl
  | string width text => rfl
  | _ => exact absurd plain id

theorem IsPlain.sendable {v : Value} (plain : v.IsPlain) : v.Sendable := by
  cases v <;> first | exact plain | trivial

theorem IsPlain.settled {v : Value} (plain : v.IsPlain) (w : World) : v.Settled w := by
  cases v <;> first | exact plain | trivial

/-- A plain leaf is told apart from every other value. -/
theorem IsPlain.eq_of_anonymous {v u : Value} (plain : v.IsPlain)
    (same : u.anonymous = v.anonymous) : u = v := by
  cases v <;> first | exact absurd plain id | (cases u <;> cases same; rfl)

end Value

/-- A leaf of an array of integers is built if it fits. -/
theorem outcome_build_plain {v : Value} (plain : v.IsPlain) :
    (v.build (some (.int k)) path w).outcome = verdict k [(path, v)] := by
  rw [verdict_singleton]
  cases number : v.integer? with
  | some n =>
    rw [Value.build_int number, outcome_fill_int number]
    simp [Value.FitsIn, number]
  | none =>
    have sent : (v.build none path w).outcome = .ok () := by
      rw [v.build_ok_iff, Value.leaves_of_leaf plain.leaf, List.forall_mem_singleton]
      exact plain.sendable
    rw [Value.build_plain plain number, sent]
    simp [Value.FitsIn, number]

/-- It arrives as the same number of the declared kind, or as itself. -/
theorem marshalled_plain {v : Value} (plain : v.IsPlain) :
    Marshalled World.Extends (fun _ => Value.InKind k) False v w
      (v.build (some (.int k)) path w) := by
  cases number : v.integer? with
  | some n =>
    obtain ⟨j, x, rfl, -⟩ := Value.eq_int_of_integer? number
    rw [Value.build_int number]
    have sent := marshalled_fill_int k path (.scalar (.int j x)) w
    refine ⟨sent.along, fun ok later along path supply => ?_⟩
    refine (sent.back ok later along path supply).mono ?_
    rintro u ⟨m, same, rfl⟩
    exact .integer (Option.some.inj same).symm
  | none =>
    rw [Value.build_plain plain number]
    have sent := sameAgain_leaf plain.leaf (plain.settled w) path
    refine ⟨sent.along, fun ok later along path supply => ?_⟩
    refine (sent.back ok later along path supply).mono fun u same => ?_
    rw [plain.eq_of_anonymous same]
    exact .other plain.leaf number

/-! ## 4. Arrays of integers -/

theorem outcome_buildItems {items : List Value}
    (each : ∀ v ∈ items, ∀ path w,
      (v.build (some (.int k)) path w).outcome = verdict k (v.placed path))
    (path : IndexPath) (i : Nat) (w : World) :
    (Value.buildItems (some (.int k)) path false i items w).outcome =
      verdict k (Value.placedFrom path i items) := by
  induction items generalizing i w with
  | nil => rfl
  | cons v vs ih =>
    -- where the first element is built, the others are, from whatever state it leaves
    have rest := fun w => ih (fun u mem => each u (List.mem_cons_of_mem _ mem)) (i + 1) w
    rw [Value.buildItems_cons, Value.placedFrom, verdict_append, ← each v List.mem_cons_self _ w]
    simp only [Source.checkElement_nested]
    cases (v.build (some (.int k)) (path ++ [i]) w).outcome with
    | error stop => rfl
    | ok => exact rest _

/-- **Construction stops at the first integer that does not fit**, depth first. -/
theorem build_outcome {v : Value} (plain : ∀ leaf ∈ v.leaves, leaf.IsPlain) (path : IndexPath)
    (w : World) : (v.build (some (.int k)) path w).outcome = verdict k (v.placed path) := by
  induction v using Value.induct generalizing path w with
  | leaf v leaf =>
    rw [Value.placed_of_leaf leaf]
    exact outcome_build_plain (plain v (by simp [Value.leaves_of_leaf leaf]))
  | array items ih =>
    rw [Value.leaves_array] at plain
    rw [Value.build_array, closeArray_outcome, Value.placed]
    exact outcome_buildItems
      (fun v mem => ih v mem fun leaf inside => plain leaf (Value.leaves_subset mem inside)) path 0 w

/-- **What was built arrives in the declared kind**, to any depth. -/
theorem marshalled_inKind {v : Value} (plain : ∀ leaf ∈ v.leaves, leaf.IsPlain) {origin : World}
    (path : IndexPath) (start : origin.Extends w) :
    Marshalled World.Extends (fun _ => Value.InKind k) False v w
      (v.build (some (.int k)) path w) :=
  marshalled_build .refl .trans (fun _ _ _ length each => .array length each)
    (fun leaf mem _ _ _ _ => marshalled_plain (plain leaf mem)) path start

end

/-! ## 5. The top level -/

section

variable {k : IntKind} {info : TypeInfo}

theorem TypeInfo.isAny_eq_false_of_base (base : info.wireTag.base = .ofKind (.int k)) :
    info.isAny = false := by
  rw [TypeTag.base_wireTag] at base
  refine Bool.eq_false_iff.mpr fun isAny => ?_
  have opened := TypeInfo.isAny_base isAny
  rw [base, TypeTag.isAny_ofKind] at opened
  simp at opened

/-- A declared array of integers declares their kind. -/
theorem TypeInfo.leafKind?_of_wireTag
    (declares : info.wireTag = (TypeTag.ofKind (.int k)).withArray) :
    info.leafKind? = some (.int k) := by
  have base : info.tag.base = .ofKind (.int k) := by
    rw [← TypeTag.base_wireTag, declares, TypeTag.base_withArray_ofKind]
  have array : (info.tag.isArray || decide (info.dimensions > 0)) = true := by
    by_cases dimensions : info.dimensions > 0
    · simp [dimensions]
    · rw [TypeInfo.wireTag, if_neg dimensions] at declares
      simp [declares]
  rw [TypeInfo.leafKind?, array, base, TypeTag.isAny_ofKind, TypeTag.kind?_ofKind]
  rfl

theorem buildTop_int (declares : info.wireTag = .ofKind (.int k)) (v : Value) (i : Nat)
    (w : World) : v.buildTop i (some info) .null w = v.fill [i] (.int k) .null w := by
  have concrete : info.isAny = false :=
    TypeInfo.isAny_eq_false_of_base (by rw [declares, TypeTag.base_ofKind])
  simp [Value.buildTop, Value.topType_of_concrete concrete, declares, TypeTag.kind?_ofKind]

/-- The elements of a declared array of integers are built under the declared kind. -/
theorem buildTop_intArray (declares : info.wireTag = (TypeTag.ofKind (.int k)).withArray)
    {items : List Value} (flat : info.dimensions = 1 → ∀ item ∈ items, item.items? = none)
    (i : Nat) (w : World) :
    ∃ dimensions, (Value.array items).buildTop i (some info) .null w =
      closeArray (.int k) dimensions
        (Value.buildItems (some (.int k)) [i] false 0 items w) := by
  have concrete : info.isAny = false :=
    TypeInfo.isAny_eq_false_of_base (by rw [declares, TypeTag.base_withArray_ofKind])
  have leaf : declaredLeaf? (some info) = some (.int k) := TypeInfo.leafKind?_of_wireTag declares
  have row : Value.buildItems (some (.int k)) [i] (ValueSource.is1D info items) 0 items w =
      Value.buildItems (some (.int k)) [i] false 0 items w := by
    cases one : ValueSource.is1D info items with
    | false => rfl
    | true => exact Value.buildItems_flat (leaves_of_is1D flat one) [i] 0 w
  simp only [Value.buildTop, Value.topType_of_concrete concrete, declares,
    TypeTag.isKnown_withArray_ofKind, TypeTag.isArray_withArray_ofKind, Value.items?, leaf,
    Value.topLeaf, Option.getD_some, World.freeCell_null, row, Bool.not_true, Bool.false_eq_true,
    if_false, if_true]
  exact ⟨_, rfl⟩

end

/-! ## 6. The round trip -/

/-- A value constructed in a fresh cell under a declared type, and what is decoded from there. -/
def Value.sentAs (info : TypeInfo) (v : Value) (w : World) : Except Stop (List Value) :=
  match ValueSource.construct ⟨[v], [info]⟩ { cells := [.null] } w with
  | (.error stop, _, _) => .error stop
  | (.ok (), sent, w) => (w.decode sent.cells 1).1.map ValueBuilder.slots

theorem construct_one (v : Value) (info : TypeInfo) (w : World) :
    ValueSource.construct ⟨[v], [info]⟩ { cells := [.null] } w =
      let r := v.buildTop 0 (some info) .null w
      (r.outcome, { cells := [r.built] }, r.world) := by
  let src : ValueSource := ⟨[v], [info]⟩
  have step : src.source.constructCell src.depth [0] (some info) .null w () =
      v.buildTop 0 (some info) .null w :=
    constructCell_eq_buildTop (src.valueAt?_single 0) (ValueSource.depth_lt (by simp [src])) .null w
  simp only [src] at step
  simp only [ValueSource.construct, Source.constructArray, buildRow, List.getElem?_cons_zero, step]
  cases (v.buildTop 0 (some info) .null w).outcome <;> rfl

theorem sentAs_of_error {v : Value} {info : TypeInfo} {w : World} {stop : Stop}
    (stopped : (v.buildTop 0 (some info) .null w).outcome = .error stop) :
    v.sentAs info w = .error stop := by
  simp only [Value.sentAs, construct_one, stopped]

/-- What was built arrives, if decoding may not fail. -/
theorem sentAs_of_ok {good : World → Value → Value → Prop} {v : Value} {info : TypeInfo}
    {w : World} (ok : (v.buildTop 0 (some info) .null w).outcome = .ok ())
    (marshalled : Marshalled World.Extends good False v w (v.buildTop 0 (some info) .null w)) :
    ∃ u later, v.sentAs info w = .ok [u] ∧ good later v u := by
  let r := v.buildTop 0 (some info) .null w
  obtain ⟨u, used, decoded, same⟩ :=
    decoded_iff.mp (marshalled.back ok r.world (.refl _) [0] r.world.supply)
  have row : Cell.decodeRow r.world [r.built] [] 0 r.world.supply = (.ok [u], used) := by
    simp only [Cell.decodeRow, List.nil_append, r, decoded]
  have whole := r.world.decode_eq [r.built] 1
  rw [row] at whole
  refine ⟨u, r.world, ?_, same⟩
  simp only [Value.sentAs, construct_one, ok]
  show Except.map _ (r.world.decode [r.built] 1).1 = _
  rw [whole]
  rfl

/-- **One integer** arrives just when it fits, as the same number. -/
theorem sentAs_int_iff {k : IntKind} {info : TypeInfo} (declares : info.wireTag = .ofKind (.int k))
    (v : Value) (us : List Value) (w : World) :
    v.sentAs info w = .ok us ↔
      ∃ m : Fixed k, v.integer? = some m.val ∧ us = [.scalar (.int k m)] := by
  have top := buildTop_int declares v 0 w
  have sent := marshalled_fill_int k [0] v w
  rw [← top] at sent
  constructor
  · intro arrived
    cases built : (v.buildTop 0 (some info) .null w).outcome with
    | error stop => cases (sentAs_of_error built).symm.trans arrived
    | ok =>
      obtain ⟨u, -, arrives, m, number, rfl⟩ := sentAs_of_ok built sent
      exact ⟨m, number, Except.ok.inj (arrived.symm.trans arrives)⟩
  · rintro ⟨m, number, rfl⟩
    have built : (v.buildTop 0 (some info) .null w).outcome = .ok () := by
      rw [top]
      exact fill_int_ok_iff.mpr ⟨m, number⟩
    obtain ⟨u, -, arrives, m', number', rfl⟩ := sentAs_of_ok built sent
    obtain rfl : m' = m := Fixed.eq_of_val (Option.some.inj (number'.symm.trans number))
    exact arrives

/-- **An array of integers** arrives in the declared kind, unless construction stops at the first
integer that does not fit. -/
theorem sentAs_intArray {k : IntKind} {info : TypeInfo}
    (declares : info.wireTag = (TypeTag.ofKind (.int k)).withArray) {items : List Value}
    (plain : ∀ leaf ∈ Value.leavesOf items, leaf.IsPlain)
    (flat : info.dimensions = 1 → ∀ item ∈ items, item.items? = none) (w : World) :
    match Value.misfit? k ((Value.array items).placed [0]) with
    | some leaf => (Value.array items).sentAs info w = .error (.outOfRange k leaf.1)
    | none => ∃ u, (Value.array items).sentAs info w = .ok [u] ∧ (Value.array items).InKind k u := by
  obtain ⟨dimensions, top⟩ := buildTop_intArray declares flat 0 w
  have inside : ∀ v ∈ items, ∀ leaf ∈ v.leaves, leaf.IsPlain := fun v mem leaf here =>
    plain leaf (Value.leaves_subset mem here)
  have built : ((Value.array items).buildTop 0 (some info) .null w).outcome =
      verdict k ((Value.array items).placed [0]) := by
    rw [top, closeArray_outcome, Value.placed]
    exact outcome_buildItems (fun v mem => build_outcome (inside v mem)) [0] 0 w
  have row := marshalledRow_items .refl .trans (.refl w)
    (fun v (mem : v ∈ items) path _ start => marshalled_inKind (k := k) (inside v mem) path start)
    [0] false
  have sent : Marshalled World.Extends (fun _ => Value.InKind k) False (.array items) w
      ((Value.array items).buildTop 0 (some info) .null w) := by
    rw [top]
    exact marshalled_closeArray row (fun _ _ _ length each => .array length each) _ _
  cases first : Value.misfit? k ((Value.array items).placed [0]) with
  | some leaf => exact sentAs_of_error (by rw [built, verdict, first])
  | none =>
    obtain ⟨u, -, arrives, same⟩ := sentAs_of_ok (by rw [built, verdict, first]) sent
    exact ⟨u, arrives, same⟩

/-- **Integers convert exactly or not at all.**  Under a declared integer kind a value arrives just when
it is an integer, of whatever kind, that fits, and then as the same number.  Under a declared array of
integers, with any dimensions, an array of plain leaves at any depth arrives just when all integers in
it fit, with the same nesting, the same numbers and the other leaves as they are; if not, construction
stops at the first integer that does not fit.  Where one dimension is declared, the array holds no
arrays. -/
theorem integers_exact (k : IntKind) (info : TypeInfo) (w : World) :
    (info.wireTag = .ofKind (.int k) → ∀ (v : Value) us,
      v.sentAs info w = .ok us ↔
        ∃ m : Fixed k, v.integer? = some m.val ∧ us = [.scalar (.int k m)]) ∧
    (info.wireTag = (TypeTag.ofKind (.int k)).withArray → ∀ items : List Value,
      (∀ leaf ∈ Value.leavesOf items, leaf.IsPlain) →
      (info.dimensions = 1 → ∀ item ∈ items, item.items? = none) →
      ((∃ us, (Value.array items).sentAs info w = .ok us) ↔
        ∀ leaf ∈ Value.leavesOf items, leaf.FitsIn k) ∧
      (∀ us, (Value.array items).sentAs info w = .ok us →
        ∃ u, us = [u] ∧ (Value.array items).InKind k u) ∧
      ((∃ leaf ∈ Value.leavesOf items, ¬ leaf.FitsIn k) →
        ∃ path leaf, Value.misfit? k ((Value.array items).placed [0]) = some (path, leaf) ∧
          (Value.array items).sentAs info w = .error (.outOfRange k path))) := by
  refine ⟨fun declares v us => sentAs_int_iff declares v us w, fun declares items plain flat => ?_⟩
  have sent := sentAs_intArray declares plain flat w
  have all_fit := Value.misfit?_placed_eq_none_iff k (.array items) [0]
  rw [Value.leaves_array] at all_fit
  cases first : Value.misfit? k ((Value.array items).placed [0]) with
  | some leaf =>
    rw [first] at sent
    refine ⟨?_, fun us arrived => ?_, fun _ => ⟨leaf.1, leaf.2, rfl, sent⟩⟩
    · rw [← all_fit, first]
      simp [sent]
    · cases sent.symm.trans arrived
  | none =>
    rw [first] at sent
    obtain ⟨u, arrives, inKind⟩ := sent
    have fits := all_fit.mp first
    refine ⟨⟨fun _ => fits, fun _ => ⟨_, arrives⟩⟩, fun us arrived => ?_, ?_⟩
    · exact ⟨u, Except.ok.inj (arrived.symm.trans arrives), inKind⟩
    · rintro ⟨leaf, mem, misfit⟩
      exact absurd (fits leaf mem) misfit

/-- Rows of integers of several kinds, with other leaves among them. -/
def mixedRows : Value :=
  .array [.array [.scalar (.int .int64 ⟨5, by decide⟩), .null],
    .array [.scalar (.bool true), .scalar (.int .uint16 ⟨200, by decide⟩), .string .w8 "a"]]

theorem integers_exact_mixedRows :
    (Value.scalar (.int .int64 ⟨300, by decide⟩)).sentAs (.ofTag (.ofKind (.int .int16))) {} =
        .ok [.scalar (.int .int16 ⟨300, by decide⟩)] ∧
      (∃ u, mixedRows.sentAs (.ofArray (.ofKind (.int .int16)) 2) {} = .ok [u] ∧
        mixedRows.InKind .int16 u) ∧
      mixedRows.sentAs (.ofArray (.ofKind (.int .int8)) 2) {} =
        .error (.outOfRange .int8 [0, 1, 1]) := by
  have plain : ∀ leaf ∈ mixedRows.leaves, leaf.IsPlain := by
    simp [mixedRows, Value.leaves, Value.leavesOf, Value.IsPlain, holdsNul]
  have fits : ∀ leaf ∈ mixedRows.leaves, leaf.FitsIn .int16 := by decide
  have wide := (integers_exact .int16 (.ofArray (.ofKind (.int .int16)) 2) {}).2 rfl _ plain
    (by simp [TypeInfo.ofArray])
  have narrow := (integers_exact .int8 (.ofArray (.ofKind (.int .int8)) 2) {}).2 rfl _ plain
    (by simp [TypeInfo.ofArray])
  refine ⟨((integers_exact .int16 _ {}).1 rfl _ _).mpr ⟨_, rfl, rfl⟩, ?_, ?_⟩
  · obtain ⟨us, arrives⟩ := wide.1.mpr fits
    obtain ⟨u, rfl, inKind⟩ := wide.2.1 us arrives
    exact ⟨u, arrives, inKind⟩
  · obtain ⟨path, leaf, first, stopped⟩ := narrow.2.2 (by decide)
    cases first
    exact stopped

end RuntimeBridge
