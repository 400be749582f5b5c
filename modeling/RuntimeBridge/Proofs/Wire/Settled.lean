/-
# What comes off the wire

Decoding what was constructed under declared types gives values that need no further conversion: every
leaf is of its own form (`Value.Settled`), and of the kind that the declared type asks for.  A null is
the exception: it stands in a handle cell as well.  The two say all that matters about the values when
they are sent again under the same types.

Main statements: `settled_leaf`, `settled_build` for arrays, and `settled_buildTop` for values at the
top level.
-/
import RuntimeBridge.Proofs.World.Extends
import RuntimeBridge.Proofs.Wire.Form
import RuntimeBridge.Proofs.Wire.Marks
import RuntimeBridge.Proofs.Wire.RoundTrip
namespace RuntimeBridge

/-! ## 1. Settled leaves -/

/-- The types are tags without alias and dimensions, as they come off the wire. -/
def TypeInfo.AreTags (types : List TypeInfo) : Prop :=
  (types.map TypeInfo.wireTag).map .ofTag = types

theorem TypeInfo.areTags_map_ofTag (tags : List TypeTag) : AreTags (tags.map .ofTag) := by
  rw [AreTags, List.map_map, List.map_map]
  exact List.map_congr_left fun tag _ => rfl

namespace Value

/-- A leaf as it comes off the wire: texts hold no NUL, handles of other runtimes stand for something
there, and the call points of foreign callables lead to no function of this runtime. -/
def Settled (w : World) : Value → Prop
  | string _ text => holdsNul text = false
  | foreign h => h.record.isNull = false ∧ h.record.isLocal = false
  | callable (.foreign c) =>
    (Callable.foreign c).isShort = true ∧ TypeInfo.AreTags c.params ∧ TypeInfo.AreTags c.retvals ∧
      w.functionAt? c.point = none ∧ w.Gave c.point
  | _ => True

/-- The call point of a foreign callable was made before. -/
def Given (w : World) : Value → Prop
  | callable (.foreign c) => w.Gave c.point
  | _ => True

/-- A value that a cell of a kind is decoded as. -/
def OfKind (kind : BaseKind) (u : Value) : Prop :=
  u.items? = none ∧ (u.leafKind = kind ∨ kind = .handle ∧ u = .null)

theorem Given.mono {w later : World} {v : Value} (given : v.Given w)
    (grows : w.objects.nextId ≤ later.objects.nextId) : v.Given later := by
  cases v with
  | callable c =>
    cases c with
    | native f => trivial
    | foreign c => exact World.Gave.mono given grows
  | _ => trivial

/-- Only leaves have call points. -/
theorem given_of_leaves {w : World} {v : Value} (given : ∀ leaf ∈ v.leaves, leaf.Given w) :
    v.Given w := by
  cases v with
  | array items => trivial
  | _ => exact given _ (by simp [leaves])

/-- What is settled stays settled. -/
theorem Settled.follows {w later : World} {v : Value} (settled : v.Settled w)
    (follows : w.Follows later) : v.Settled later := by
  cases v with
  | callable c =>
    cases c with
    | native f => trivial
    | foreign c =>
      obtain ⟨short, params, retvals, nothing, gave⟩ := settled
      exact ⟨short, params, retvals, follows.functionAt?_eq_none gave nothing, gave.mono follows.grows⟩
  | _ => exact settled

theorem ofKind_leafKind {u : Value} (leaf : u.items? = none) : u.OfKind u.leafKind :=
  ⟨leaf, .inl rfl⟩

end Value

/-- Decoding gives a settled leaf of a kind, if it succeeds. -/
def SettlesAs (kind : BaseKind) (w : World) (_ u : Value) : Prop :=
  u.OfKind kind ∧ u.Settled w

/-! ## 2. Leaves -/

section

variable {later : World} {path : IndexPath} {supply : Nat}

theorem settled_ofHandle (r : HandleRecord) (v : Value) :
    Decoded (SettlesAs .handle later v) True ((Cell.ofHandle r).decode later path supply) := by
  rw [decode_ofHandle]
  cases notNull : r.isNull with
  | true => exact ⟨⟨rfl, .inr ⟨rfl, rfl⟩⟩, trivial⟩
  | false =>
    cases notLocal : r.isLocal with
    | false => exact ⟨Value.ofKind_leafKind rfl, notNull, notLocal⟩
    | true =>
      cases resolved : later.resolveLocal r with
      | error e => exact trivial
      | ok o => exact ⟨Value.ofKind_leafKind rfl, trivial⟩

theorem settled_ofCallable {c : Callable} (short : c.isShort = true) {p : CallPoint}
    (gave : later.Gave p) (v : Value) :
    Decoded (SettlesAs .callable later v) True
      ((Cell.ofCallable ⟨some p, c.params.map TypeInfo.wireTag, c.retvals.map TypeInfo.wireTag⟩).decode
        later path supply) := by
  rw [decode_ofCallable, CallableRecord.callable?, Option.map_some]
  cases found : later.functionAt? p with
  | some f => exact ⟨Value.ofKind_leafKind rfl, trivial⟩
  | none =>
    obtain ⟨params, retvals⟩ := (Callable.isShort_iff c).mp short
    have lengths : ∀ types : List TypeInfo,
        ((types.map TypeInfo.wireTag).map TypeInfo.ofTag).length = types.length := by simp
    refine ⟨Value.ofKind_leafKind rfl, (Callable.isShort_iff _).mpr ?_,
      TypeInfo.areTags_map_ofTag _, TypeInfo.areTags_map_ofTag _, found, gave⟩
    exact ⟨(lengths _).symm ▸ params, (lengths _).symm ▸ retvals⟩

theorem settled_ofScalar (s : Scalar) (v : Value) :
    Decoded (SettlesAs s.kind later v) True ((Cell.ofScalar s).decode later path supply) := by
  obtain ⟨u, used, decoded, same⟩ := stands_scalar s later later (.refl later) path supply
  rw [decoded]
  cases u <;> cases same
  exact ⟨Value.ofKind_leafKind rfl, trivial⟩

theorem settled_ofText (width : Width) {text : String} (plain : holdsNul text = false)
    (v : Value) :
    Decoded (SettlesAs (.string width) later v) True
      ((Cell.ofText width text).decode later path supply) := by
  obtain ⟨u, used, decoded, same⟩ :=
    stands_text width plain later later (.refl later) path supply
  rw [decoded]
  cases u <;> cases same
  exact ⟨Value.ofKind_leafKind rfl, plain⟩

end

/-- What a source has for a handle is registered, if it is an object. -/
theorem World.extends_recordOf (offer : HandleOffer) (w : World) :
    w.Extends (Source.recordOf offer w).2 := by
  cases offer with
  | record r => exact .refl w
  | foreign h => exact .refl w
  | object o => exact w.extends_registerObject o
  | wrapped v =>
    have made : w.Extends (w.newObject (.value v)).2 := extends_of_objects_eq rfl
    exact made.trans (extends_registerObject _ _)

/-- A content whose call point, if it has one, was made before. -/
def LeafContent.Given (w : World) : LeafContent → Prop
  | callable (.foreign c) => w.Gave c.point
  | _ => True

/-- A refused value leaves everything as it was. -/
theorem marshalled_refused {good : World → Value → Value → Prop} {mayFail : Prop} {v : Value}
    {w : World} {path : IndexPath} {e : BridgeError} {c : Cell} :
    Marshalled World.Extends good mayFail v w (Source.refuse path e c w ()) :=
  ⟨.refl w, fun ok => by simp [Source.refuse] at ok⟩

/-- **A content settles** in its own kind. -/
theorem settled_put {x : LeafContent} {w : World} (given : x.Given w) (path : IndexPath)
    (v : Value) :
    Marshalled World.Extends (SettlesAs x.kind) True v w (x.put path .null w) := by
  cases x with
  | null =>
    exact ⟨.refl w, fun _ later _ path supply => ⟨Value.ofKind_leafKind rfl, trivial⟩⟩
  | scalar s => exact ⟨.refl w, fun _ later _ path supply => settled_ofScalar s v⟩
  | text width text =>
    simp only [LeafContent.put, Cell.setText?]
    cases plain : holdsNul text with
    | true => exact marshalled_refused
    | false => exact ⟨.refl w, fun _ later _ path supply => settled_ofText width plain v⟩
  | handle offer =>
    exact ⟨w.extends_recordOf offer, fun _ later _ path supply => settled_ofHandle _ v⟩
  | callable c =>
    simp only [LeafContent.put]
    cases short : c.isShort with
    | false =>
      obtain ⟨e, refused⟩ := toRecord_of_long short w
      rw [refused]
      exact marshalled_refused
    | true =>
      cases c with
      | native f =>
        rw [toRecord_native_of_short short]
        refine ⟨w.extends_exportForCell f, fun _ later along path supply => ?_⟩
        refine settled_ofCallable short (fun id here => ?_) v
        obtain rfl : w.objects.nextId = id := Option.some.inj here
        exact Nat.lt_of_lt_of_le (Nat.lt_succ_self _) along.grows
      | foreign c =>
        rw [toRecord_foreign_of_short short]
        exact ⟨.refl w, fun _ later along path supply =>
          settled_ofCallable short (World.Gave.mono given along.grows) v⟩

/-- **A value settles** in the kind that it is filled in as. -/
theorem settled_fill {v : Value} {w : World} (given : v.Given w) (path : IndexPath)
    (kind : BaseKind) :
    Marshalled World.Extends (SettlesAs kind) True v w (v.fill path kind .null w) := by
  rw [Value.fill]
  cases asked : v.asLeaf path kind with
  | error e => exact marshalled_refused
  | ok x =>
    have ofKind := Value.kind_of_asLeaf asked
    have givenContent : x.Given w := by
      cases x with
      | callable c =>
        cases c with
        | native f => trivial
        | foreign c =>
          obtain rfl : kind = .callable := ofKind.symm
          simp only [Value.asLeaf] at asked
          split at asked
          next c' found =>
            obtain rfl : c' = .foreign c := by simpa using asked
            cases v <;> simp [Value.callable?] at found
            subst found
            exact given
          next => cases asked
      | _ => trivial
    exact ofKind ▸ settled_put givenContent path v

/-! ## 3. Below the top level -/

namespace BaseKind

/-- A kind that was declared once is left as it is. -/
theorem under_under (declared : Option BaseKind) (own : BaseKind) :
    (own.under declared).under declared = own.under declared := by
  cases declared with
  | none => rfl
  | some kind =>
    by_cases same : kind.sameClass own = true
    · simp only [under, same, if_true, ite_self]
    · simp only [under, same, Bool.false_eq_true, if_false]

theorem under_null (declared : Option BaseKind) : null.under declared = null := by
  cases declared with
  | none => rfl
  | some kind => simp [under, sameClass, isNumeric, isString, isChar]

end BaseKind

namespace Value

/-- A leaf that is left as it is below a declared leaf kind. -/
def KeptUnder (declared : Option BaseKind) (w : World) (leaf : Value) : Prop :=
  leaf.leafKind.under declared = leaf.leafKind ∧ leaf.Settled w

end Value

/-- Decoding gives an array where there was one, with settled leaves of the declared kind. -/
def SettlesUnder (declared : Option BaseKind) (w : World) (v u : Value) : Prop :=
  u.items?.isSome = v.items?.isSome ∧ ∀ leaf ∈ u.leaves, leaf.KeptUnder declared w

theorem keptUnder_of_settlesAs {declared : Option BaseKind} {own : BaseKind} {w : World}
    {v u : Value} (settles : SettlesAs (own.under declared) w v u) :
    u.KeptUnder declared w := by
  obtain ⟨⟨-, kind⟩, settled⟩ := settles
  refine ⟨?_, settled⟩
  rcases kind with kind | ⟨-, rfl⟩
  · rw [kind, BaseKind.under_under]
  · exact BaseKind.under_null declared

theorem settlesUnder_array {declared : Option BaseKind} {w : World} {vs us : List Value}
    (length : us.length = vs.length)
    (each : ∀ (j : Nat) v u, vs[j]? = some v → us[j]? = some u → SettlesUnder declared w v u) :
    SettlesUnder declared w (.array vs) (.array us) := by
  refine ⟨rfl, fun leaf mem => ?_⟩
  rw [Value.leaves_array, Value.leavesOf_eq_flatMap, List.mem_flatMap] at mem
  obtain ⟨u, mem, inside⟩ := mem
  obtain ⟨j, atIndex⟩ := List.getElem?_of_mem mem
  have inRange := (List.getElem?_eq_some_iff.mp atIndex).1
  exact (each j _ u (List.getElem?_eq_getElem (length ▸ inRange)) atIndex).2 leaf inside

/-- **A value settles** below the top level. -/
theorem settled_build (declared : Option BaseKind) {v : Value} {origin w : World}
    (given : ∀ leaf ∈ v.leaves, leaf.Given origin) (path : IndexPath) (start : origin.Extends w) :
    Marshalled World.Extends (SettlesUnder declared) True v w (v.build declared path w) := by
  refine marshalled_build .refl .trans (fun later vs us => settlesUnder_array)
    (fun leaf mem isLeaf path w start => ?_) path start
  rw [Value.build_leaf isLeaf]
  have settled := settled_fill ((given leaf mem).mono start.grows) path
    (leaf.leafKind.under declared)
  refine ⟨settled.along, fun ok later along path supply => ?_⟩
  refine (settled.back ok later along path supply).mono fun u settles => ?_
  have leaves : u.leaves = [u] := Value.leaves_of_leaf settles.1.1
  refine ⟨by rw [settles.1.1, isLeaf], ?_⟩
  rw [leaves, List.forall_mem_singleton]
  exact keptUnder_of_settlesAs settles

/-! ## 4. The top level -/

/-- Elements that are arrays just where others are, are leaves if those are. -/
theorem leaves_of_leaves {vs us : List Value} (length : us.length = vs.length)
    (same : ∀ (j : Nat) v u, vs[j]? = some v → us[j]? = some u →
      u.items?.isSome = v.items?.isSome)
    (leaves : ∀ v ∈ vs, v.items? = none) : ∀ u ∈ us, u.items? = none := by
  intro u mem
  obtain ⟨j, atIndex⟩ := List.getElem?_of_mem mem
  have inRange := (List.getElem?_eq_some_iff.mp atIndex).1
  have atValue := List.getElem?_eq_getElem (length ▸ inRange)
  have isSome := same j _ u atValue atIndex
  rw [leaves _ (List.mem_of_getElem? atValue)] at isSome
  simpa using isSome

/-- The value needs no conversion under a declared type: it is of the declared kind, or an array with
leaves of that kind, without arrays in it if one dimension is declared. -/
def TypeInfo.Fits (info : TypeInfo) (u : Value) : Prop :=
  info.wireTag.isKnown = true ∧
    if info.wireTag.isArray then
      ∃ items, u = .array items ∧
        (∀ leaf ∈ Value.leavesOf items, leaf.leafKind.under info.leafKind? = leaf.leafKind) ∧
        (info.dimensions = 1 → ∀ item ∈ items, item.items? = none)
    else ∃ kind, info.wireTag.kind? = some kind ∧ u.OfKind kind

/-- Decoding gives settled leaves that fit a declared type, if there is one that says more than `any`. -/
def SettlesTop (declared : Option TypeInfo) (w : World) (_ u : Value) : Prop :=
  (∀ leaf ∈ u.leaves, leaf.Settled w) ∧
    ∀ info, declared = some info → info.isAny = false → info.Fits u

/-- Types that are missing or `any` leave a value as it is built below the top level. -/
theorem settled_buildTop_open {declared : Option TypeInfo} {v : Value} {origin w : World}
    (given : ∀ leaf ∈ v.leaves, leaf.Given origin) (i : Nat) (start : origin.Extends w)
    (opened : ∀ info, declared = some info → info.isAny = true) :
    Marshalled World.Extends (SettlesTop declared) True v w (v.buildTop i declared .null w) := by
  rw [Value.buildTop_eq_build i (fun info here => .inl (opened info here))]
  have settled := settled_build none given [i] start
  refine ⟨settled.along, fun ok later along path supply => ?_⟩
  refine (settled.back ok later along path supply).mono fun u settles => ?_
  refine ⟨fun leaf mem => (settles.2 leaf mem).2, fun info here concrete => ?_⟩
  exact absurd (opened info here) (by simp [concrete])

/-- **A value settles** at the top level. -/
theorem settled_buildTop {declared : Option TypeInfo} {v : Value} {origin w : World}
    (given : ∀ leaf ∈ v.leaves, leaf.Given origin) (i : Nat) (start : origin.Extends w) :
    Marshalled World.Extends (SettlesTop declared) True v w (v.buildTop i declared .null w) := by
  by_cases opened : ∀ info, declared = some info → info.isAny = true
  · exact settled_buildTop_open given i start opened
  · obtain ⟨info, rfl, concrete⟩ : ∃ info, declared = some info ∧ info.isAny = false := by
      simpa using opened
    rw [Value.buildTop, Value.topType_of_concrete concrete]
    cases known : info.wireTag.isKnown with
    | false => exact marshalled_refused
    | true =>
      cases isArray : info.wireTag.isArray with
      | false =>
        simp only [Bool.not_true, Bool.false_eq_true, if_false]
        cases declares : info.wireTag.kind? with
        | none => exact marshalled_refused
        | some kind =>
          have settled := settled_fill ((Value.given_of_leaves given).mono start.grows) [i] kind
          refine ⟨settled.along, fun ok later along path supply => ?_⟩
          refine (settled.back ok later along path supply).mono fun u settles => ?_
          have leaves : u.leaves = [u] := Value.leaves_of_leaf settles.1.1
          refine ⟨by rw [leaves, List.forall_mem_singleton]; exact settles.2, ?_⟩
          rintro _ ⟨⟩ -
          refine ⟨known, ?_⟩
          rw [isArray, if_neg Bool.false_ne_true]
          exact ⟨kind, declares, settles.1⟩
      | true =>
        simp only [Bool.not_true, Bool.false_eq_true, if_false, if_true]
        cases array : v.items? with
        | none => exact marshalled_refused
        | some items =>
          obtain rfl := Value.eq_array_of_items? array
          rw [Value.leaves_array] at given
          have row := marshalledRow_items .refl .trans start
            (fun v (mem : v ∈ items) path w start => settled_build info.leafKind?
              (fun leaf inside => given leaf (Value.leaves_subset mem inside)) path start)
            [i] (ValueSource.is1D info items)
          simp only [World.freeCell_null]
          refine marshalled_closeArray row (fun ok later us length each => ?_) _ _
          have settles := settlesUnder_array length each
          rw [SettlesUnder, Value.leaves_array] at settles
          refine ⟨?_, ?_⟩
          · rw [Value.leaves_array]
            exact fun leaf mem => (settles.2 leaf mem).2
          · rintro _ ⟨⟩ -
            refine ⟨known, ?_⟩
            rw [isArray, if_pos rfl]
            refine ⟨us, rfl, fun leaf mem => (settles.2 leaf mem).1, fun one => ?_⟩
            have flat : ValueSource.is1D info items = true := by
              rw [ValueSource.is1D, if_pos one]
            rw [flat] at ok
            refine leaves_of_leaves length (fun j v u atValue atResult =>
              (each j v u atValue atResult).1) ?_
            have ok : (Value.buildItems (declaredLeaf? (some info)) [i] true 0 items w).outcome =
              .ok () := ok
            exact Value.leaves_of_flat_row ok

end RuntimeBridge
