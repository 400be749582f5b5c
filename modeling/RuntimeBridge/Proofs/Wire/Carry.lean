/-
# Values are carried in their own kinds

What holds of each value that is built in the kinds of its own leaves (`Carried`): it is built just
when its leaves can be sent; what is registered stays registered; the cell depends on the value alone
but for what is minted; and from then on the cell is decoded as the value.

Main statement: `carried_build`, from one lemma about leaves and one about rows of values.
-/
import RuntimeBridge.Proofs.Cell.Payload
import RuntimeBridge.Proofs.World.Registered
import RuntimeBridge.Proofs.Wire.Marshalled
import RuntimeBridge.Proofs.Wire.Identities
namespace RuntimeBridge

/-! ## 1. Leaves -/

/-- The cell is decoded as the value from the state on. -/
def Cell.Stands (c : Cell) (w : World) (v : Value) : Prop :=
  ∀ later, w.Keeps later → ∀ path supply,
    ∃ u used, c.decode later path supply = (.ok u, used) ∧ u.anonymous = v.anonymous

/-- What holds of a value that was built from one state of the process. -/
structure Carried (v : Value) (w : World) (r : Built Unit Cell) : Prop where
  ok_iff : r.outcome = .ok () ↔ ∀ leaf ∈ v.leaves, leaf.Sendable
  keeps : w.Keeps r.world
  form : r.outcome = .ok () → r.built.anonymous = v.skeleton
  back : r.outcome = .ok () → r.built.Stands r.world v

theorem carried_of_stands {v : Value} {w w' : World} {c : Cell} (leaf : v.items? = none)
    (sendable : v.Sendable) (keeps : w.Keeps w') (form : c.anonymous = v.skeleton)
    (stands : c.Stands w' v) : Carried v w (Source.filled (c, w') ()) where
  ok_iff := by simp [Source.filled, Value.leaves_of_leaf leaf, sendable]
  keeps := keeps
  form _ := form
  back _ := stands

theorem carried_of_refused {v : Value} {w : World} {path : IndexPath} {e : BridgeError} {c : Cell}
    (leaf : v.items? = none) (refused : ¬ v.Sendable) :
    Carried v w (Source.refuse path e c w ()) where
  ok_iff := by simp [Source.refuse, Value.leaves_of_leaf leaf, refused]
  keeps := .refl w
  form ok := by simp [Source.refuse] at ok
  back ok := by simp [Source.refuse] at ok

theorem Cell.decode_plain {kind : BaseKind} (known : kind ≠ .any) (w : World) (payload : Payload)
    (owned : Bool) (path : IndexPath) (supply : Nat) :
    (Cell.plain (.ofKind kind) payload owned).decode w path supply =
      decodeLeaf w (.plain (.ofKind kind) payload owned) path supply := by
  simp [decode, TypeTag.isAny_ofKind, known]

theorem stands_scalar (s : Scalar) (w : World) : (Cell.ofScalar s).Stands w (.scalar s) := by
  intro later _ path supply
  refine ⟨.scalar s, supply, ?_, rfl⟩
  have known : s.kind ≠ .any := by cases s <;> simp [Scalar.kind]
  have read : (Cell.ofScalar s).scalar? = some s := by
    simp [Cell.scalar?, Cell.ofScalar, Cell.tag, Scalar.tag, TypeTag.kind?_ofKind, Cell.word,
      Scalar.ofWord?_toWord]
  have kind : (Cell.ofScalar s).tag.kind? = some s.kind := TypeTag.kind?_ofKind _
  have leaf : (Cell.ofScalar s).decode later path supply =
      (Cell.ofScalar s).decodeLeaf later path supply := Cell.decode_plain known _ _ _ _ _
  rw [leaf, Cell.decodeLeaf, kind]
  cases s <;> simp only [Scalar.kind, read]

theorem stands_text (width : Width) {text : String} (plain : holdsNul text = false) (w : World) :
    (Cell.ofText width text).Stands w (.string width text) := by
  intro later _ path supply
  refine ⟨.string width text, supply, ?_, rfl⟩
  have kind : (Cell.ofText width text).tag.kind? = some (.string width) := TypeTag.kind?_ofKind _
  have read : (Cell.ofText width text).text? = some text := by
    simp only [Cell.text?, kind]
    simp only [Cell.ofText, TextBuffer.width_ofText, beq_self_eq_true, if_true,
      TextBuffer.text?_ofText width plain]
  have leaf : (Cell.ofText width text).decode later path supply =
      (Cell.ofText width text).decodeLeaf later path supply :=
    Cell.decode_plain (by simp) _ _ _ _ _
  rw [leaf, Cell.decodeLeaf, kind]
  simp only [read]

theorem handle?_ofHandle (r : HandleRecord) : (Cell.ofHandle r).handle? = some r := by
  simp [Cell.handle?, Cell.ofHandle]

theorem decode_ofHandle (r : HandleRecord) (w : World) (path : IndexPath) (supply : Nat) :
    (Cell.ofHandle r).decode w path supply =
      if r.isNull then (.ok .null, supply)
      else if r.isLocal then
        match w.resolveLocal r with
        | .ok o => (.ok (.object o), supply)
        | .error e => (.error ⟨.error (.handle e), path⟩, supply)
      else (.ok (.foreign ⟨supply, r⟩), supply + 1) := by
  have kind : (Cell.ofHandle r).tag.kind? = some .handle := TypeTag.kind?_ofKind _
  have leaf : (Cell.ofHandle r).decode w path supply =
      (Cell.ofHandle r).decodeLeaf w path supply := Cell.decode_plain (by simp) _ _ _ _ _
  rw [leaf, Cell.decodeLeaf, kind]
  cases found : w.resolveLocal r <;> simp only [handle?_ofHandle, found]

theorem stands_object (o : Object) (w : World) :
    (Cell.ofHandle (w.localHandle o).1).Stands (w.localHandle o).2 (.object o) := by
  intro later keeps path supply
  refine ⟨.object o, supply, ?_, rfl⟩
  have found : later.objects.resolve? (w.registerObject o).1 = some o :=
    keeps _ _ (w.resolve?_registerObject o)
  have isNull : (w.localHandle o).1.isNull = false := by
    have := w.registerObject_pos o
    show ((w.registerObject o).1 == 0) = false
    simpa using Nat.ne_of_gt this
  have isLocal : (w.localHandle o).1.isLocal = true := rfl
  have resolved : later.resolveLocal (w.localHandle o).1 = .ok o := by
    have same : (w.localHandle o).1.handle = (w.registerObject o).1 := rfl
    rw [World.resolveLocal, same, found]
  rw [decode_ofHandle, isNull, isLocal]
  simp only [Bool.false_eq_true, if_false, if_true, resolved]

theorem stands_foreign {h : ForeignHandle} (notNull : h.record.isNull = false)
    (notLocal : h.record.isLocal = false) (w : World) :
    (Cell.ofHandle h.record).Stands w (.foreign h) := by
  intro later _ path supply
  refine ⟨.foreign ⟨supply, h.record⟩, supply + 1, ?_, rfl⟩
  rw [decode_ofHandle, notNull, notLocal]
  rfl

theorem decode_ofCallable (r : CallableRecord) (w : World) (path : IndexPath) (supply : Nat) :
    (Cell.ofCallable r).decode w path supply =
      match r.callable? w with
      | some f => (.ok (.callable f), supply)
      | none => (.error ⟨.marshal (.nullCallable (.path path)), path⟩, supply) := by
  have kind : (Cell.ofCallable r).tag.kind? = some .callable := TypeTag.kind?_ofKind _
  have read : (Cell.ofCallable r).callable? = some r := by
    simp [Cell.callable?, Cell.ofCallable]
  have leaf : (Cell.ofCallable r).decode w path supply =
      (Cell.ofCallable r).decodeLeaf w path supply := Cell.decode_plain (by simp) _ _ _ _ _
  rw [leaf, Cell.decodeLeaf, kind]
  cases found : r.callable? w <;> simp only [read, Option.bind_some, found]

/-- The record of a function of this runtime. -/
def exportedRecord (f : NativeFunction) (w : World) : CallableRecord :=
  ⟨some (w.exportForCell f).1, f.params.map TypeInfo.wireTag, f.retvals.map TypeInfo.wireTag⟩

theorem stands_function (f : NativeFunction) (w : World) :
    (Cell.ofCallable (exportedRecord f w)).Stands (w.exportForCell f).2 (.callable (.native f)) := by
  intro later keeps path supply
  refine ⟨.callable (.native f), supply, ?_, rfl⟩
  have found : (exportedRecord f w).callable? later = some (.native f) := by
    simp only [CallableRecord.callable?, exportedRecord, Option.map_some,
      World.functionAt?_exportForCell keeps]
  rw [decode_ofCallable, found]

theorem toRecord_native (f : NativeFunction) (w : World) :
    (Callable.native f).toRecord w =
      if f.params.length ≤ signatureLimit then
        if f.retvals.length ≤ signatureLimit then
          (.ok (exportedRecord f w), (w.exportForCell f).2)
        else (.error (.marshal (.signatureTooLong f.retvals.length)), w)
      else (.error (.marshal (.signatureTooLong f.params.length)), w) := by
  simp only [Callable.toRecord, signatureCount?, List.length_map, Callable.params, Callable.retvals]
  by_cases params : f.params.length ≤ signatureLimit
  · rw [if_pos params, if_pos params]
    by_cases retvals : f.retvals.length ≤ signatureLimit
    · rw [if_pos retvals, if_pos retvals]
      rfl
    · rw [if_neg retvals, if_neg retvals]
  · rw [if_neg params, if_neg params]

/-- **Leaves are carried** in their own kinds. -/
theorem carried_leaf {v : Value} (leaf : v.items? = none) (returns : v.Returns) (path : IndexPath)
    (w : World) : Carried v w (v.build none path w) := by
  rw [Value.build_leaf leaf]
  have content := v.asLeaf_leafKind path leaf
  simp only [BaseKind.under, Value.fill, content]
  cases v with
  | null => exact carried_of_stands leaf trivial (.refl w) rfl fun later _ path supply =>
      ⟨.null, supply, rfl, rfl⟩
  | scalar s => exact carried_of_stands leaf trivial (.refl w) rfl (stands_scalar s w)
  | string width text =>
    cases plain : holdsNul text with
    | true =>
      have refused : ¬ (Value.string width text).Sendable := by simp [Value.Sendable, plain]
      simp only [Value.content, LeafContent.put, Cell.setText?, plain, if_true]
      exact carried_of_refused leaf refused
    | false =>
      simp only [Value.content, LeafContent.put, Cell.setText?, plain, Bool.false_eq_true, if_false]
      exact carried_of_stands leaf plain (.refl w) rfl (stands_text width plain w)
  | array items => simp [Value.items?] at leaf
  | object o =>
    exact carried_of_stands leaf trivial (w.keeps_registerObject o) rfl (stands_object o w)
  | foreign h =>
    obtain ⟨notNull, notLocal⟩ := returns
    exact carried_of_stands leaf trivial (.refl w) rfl (stands_foreign notNull notLocal w)
  | callable c =>
    cases c with
    | foreign c => exact absurd returns id
    | native f =>
      simp only [Value.content, LeafContent.put, toRecord_native]
      by_cases params : f.params.length ≤ signatureLimit
      · by_cases retvals : f.retvals.length ≤ signatureLimit
        · rw [if_pos params, if_pos retvals]
          exact carried_of_stands leaf ⟨params, retvals⟩ (w.keeps_exportForCell f) rfl
            (stands_function f w)
        · rw [if_pos params, if_neg retvals]
          exact carried_of_refused leaf fun short => retvals short.2
      · rw [if_neg params]
        exact carried_of_refused leaf fun short => params short.1

/-! ## 2. Rows and arrays -/

/-- As `Carried`, for a row of values. -/
structure CarriedRow (vs : List Value) (w : World) (r : Built Unit (List Cell)) : Prop where
  ok_iff : r.outcome = .ok () ↔ ∀ leaf ∈ Value.leavesOf vs, leaf.Sendable
  keeps : w.Keeps r.world
  form : r.outcome = .ok () → r.built.map Cell.anonymous = vs.map Value.skeleton
  back : r.outcome = .ok () → ∀ later, r.world.Keeps later → ∀ path i supply,
    ∃ us used, Cell.decodeRow later r.built path i supply = (.ok us, used) ∧
      us.map Value.anonymous = vs.map Value.anonymous

/-- Decoding gives the same value, but for the identities of handles of other runtimes. -/
def SameAgain (_ : World) (v u : Value) : Prop :=
  u.anonymous = v.anonymous

theorem sameAgain_row {w : World} {vs us : List Value} (length : us.length = vs.length)
    (each : ∀ (j : Nat) v u, vs[j]? = some v → us[j]? = some u → SameAgain w v u) :
    us.map Value.anonymous = vs.map Value.anonymous := by
  refine List.ext_getElem (by simpa using length) fun j inUs inVs => ?_
  rw [List.getElem_map, List.getElem_map]
  rw [List.length_map] at inUs inVs
  exact each j _ _ (List.getElem?_eq_getElem inVs) (List.getElem?_eq_getElem inUs)

/-- What is carried is marshalled. -/
theorem Carried.marshalled {v : Value} {w : World} {r : Built Unit Cell} (carried : Carried v w r) :
    Marshalled World.Keeps SameAgain False v w r where
  along := carried.keeps
  back ok later keeps path supply := decoded_iff.mpr (carried.back ok later keeps path supply)

theorem carried_row {vs : List Value}
    (each : ∀ v ∈ vs, ∀ path w, Carried v w (v.build none path w)) (path : IndexPath) (w : World) :
    CarriedRow vs w (Value.buildItems none path false 0 vs w) := by
  have marshalled := marshalledRow_items .refl .trans (.refl w)
    (fun v mem path w _ => (each v mem path w).marshalled) path false
  refine ⟨?_, marshalled.along, fun ok => ?_, fun ok later keeps path k supply => ?_⟩
  · rw [Value.buildItems_ok_iff fun v mem path w => (each v mem path w).ok_iff,
      Value.leavesOf_eq_flatMap, List.forall_mem_flatMap]
  · obtain ⟨length, built⟩ := Value.buildItems_ok ok
    refine List.ext_getElem (by simpa using length) fun j inCells inValues => ?_
    rw [List.length_map] at inCells inValues
    obtain ⟨before, ok, same, -⟩ := built j _ _ (List.getElem?_eq_getElem inValues)
      (List.getElem?_eq_getElem inCells)
    rw [List.getElem_map, List.getElem_map, ← same]
    exact (each _ (List.getElem_mem inValues) _ before).form ok
  · obtain ⟨us, used, decoded, length, same⟩ :=
      decoded_iff.mp (marshalled.back ok later keeps path k supply)
    exact ⟨us, used, decoded, sameAgain_row length same⟩

/-- **Values are carried** in their own kinds, to any depth. -/
theorem carried_build {v : Value} (returns : ∀ leaf ∈ v.leaves, leaf.Returns) (path : IndexPath)
    (w : World) : Carried v w (v.build none path w) := by
  induction v using Value.induct generalizing path w with
  | leaf v leaf =>
    exact carried_leaf leaf (returns v (by simp [Value.leaves_of_leaf leaf])) path w
  | array items ih =>
    have row := carried_row (fun v mem path w => ih v mem (fun leaf inside =>
      returns leaf (Value.leaves_array items ▸ Value.leaves_subset mem inside)) path w) path w
    rw [Value.build_array]
    refine ⟨?_, ?_, fun ok => ?_, fun ok => ?_⟩
    · rw [closeArray_outcome, row.ok_iff, Value.leaves_array]
    · rw [closeArray_world]
      exact row.keeps
    · rw [closeArray_outcome] at ok
      rw [built_of_closeArray ok, Cell.anonymous_ofArray, row.form ok, Value.skeleton,
        Value.skeletonOf_eq_map]
      rfl
    · rw [closeArray_outcome] at ok
      rw [built_of_closeArray ok, closeArray_world]
      intro later keeps path' supply
      obtain ⟨us, used, decoded, same⟩ := row.back ok later keeps path' 0 supply
      refine ⟨.array us, used, ?_, ?_⟩
      · rw [decode_ofArray, decoded]
      · rw [Value.anonymous_array, Value.anonymous_array, same]

end RuntimeBridge
