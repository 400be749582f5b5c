/-
# What construction changes and decoding reads

Both directions of the wire have a small footprint in the process.  Construction mints ids and addresses
and frees what the overwritten cells owned; in every other respect the process only grows
(`grows_buildRow`).  Decoding looks up the ids that the cells name, and takes identities for handles of
other runtimes.  So from two states where those ids stand for the same, the cells are decoded alike, but
for which handles of other runtimes they hold (`decodeRow_alike`).

Main statements: `grows_buildRow`, `decodeRow_alike`.
-/
import RuntimeBridge.Proofs.World.Growth
import RuntimeBridge.Proofs.Wire.Rows
import RuntimeBridge.Proofs.Wire.Identities
import RuntimeBridge.Proofs.Wire.Marks
import RuntimeBridge.Proofs.Wire.Traversal
namespace RuntimeBridge

open World (GrowsTo)

/-! ## 1. What construction changes -/

/-- The ids that may be released when the cells are freed: those of the call points that lie at their
noted addresses. -/
def World.FreedWith (w : World) (cells : List Cell) (id : Nat) : Prop :=
  ∃ r ∈ Cell.ownedRecordsOf cells, w.releasedBy? r = some id

theorem World.FreedWith.mono {w : World} {cells more : List Cell} {id : Nat}
    (freed : w.FreedWith cells id) (sub : cells ⊆ more) : w.FreedWith more id := by
  obtain ⟨r, mem, releases⟩ := freed
  refine ⟨r, ?_, releases⟩
  rw [Cell.ownedRecordsOf_eq_flatMap] at mem ⊢
  obtain ⟨c, inside, owned⟩ := List.mem_flatMap.mp mem
  exact List.mem_flatMap.mpr ⟨c, sub inside, owned⟩

section Growth

variable {w later : World} {freed : Nat → Prop}

theorem grows_recordOf (h : w.GrowsTo freed later) (offer : HandleOffer) :
    w.GrowsTo freed (Source.recordOf offer later).2 := by
  cases offer with
  | record r | foreign r => exact h
  | object o => exact h.registerObject o
  | wrapped v => exact (h.setSupply (Nat.le_succ _)).registerObject _

theorem grows_toRecord (h : w.GrowsTo freed later) (c : Callable) :
    w.GrowsTo freed (c.toRecord later).2 := by
  cases short : c.isShort with
  | false =>
    obtain ⟨e, refused⟩ := toRecord_of_long short later
    rw [refused]
    exact h
  | true =>
    cases c with
    | native f =>
      rw [toRecord_native_of_short short]
      exact h.exportForCell f
    | foreign c =>
      rw [toRecord_foreign_of_short short]
      exact h

theorem grows_writeMarks (h : w.GrowsTo freed later) (ms : List Mark) :
    w.GrowsTo freed (writeMarks ms later).2 := by
  induction ms generalizing later with
  | nil => exact h
  | cons m ms ih =>
    cases m with
    | plain | carried c => exact ih h
    | object o => exact ih (grows_recordOf h (.object o))
    | wrapped v => exact ih (grows_recordOf h (.wrapped v))
    | exported f => exact ih (h.exportForCell f)

/-- The cells of elements are new, so nothing is freed when they are filled. -/
theorem grows_buildItems (h : w.GrowsTo freed later) (declared : Option BaseKind) (path : IndexPath)
    (flat : Bool) (items : List Value) :
    w.GrowsTo freed (Value.buildItems declared path flat 0 items later).world := by
  have written : Writes (Value.planItems declared flat items) later _ _ _ :=
    writes_buildItems (fun v _ path w => writes_build declared v path w) path 0 later
  have after : (writeMarks (reached (Value.planItems declared flat items)) later).2 =
      (Value.buildItems declared path flat 0 items later).world := congrArg Prod.snd written.written
  rw [← after]
  exact grows_writeMarks h _

variable {cell : Cell} (covered : ∀ id, w.FreedWith [cell] id → freed id)
include covered

theorem grows_freeCell (h : w.GrowsTo freed later) : w.GrowsTo freed (later.freeCell cell) :=
  h.freeCell fun r mem id releases =>
    covered id ⟨r, List.mem_append_left _ mem, releases⟩

/-- A leaf is written, and what its cell owned is freed. -/
theorem grows_fill (h : w.GrowsTo freed later) (path : IndexPath) (v : Value) (kind : BaseKind) :
    w.GrowsTo freed (v.fill path kind cell later).world := by
  rw [Value.fill]
  cases v.asLeaf path kind with
  | error e => exact h
  | ok x =>
    cases x with
    | null | scalar s => exact grows_freeCell covered h
    | text width s =>
      simp only [LeafContent.put, Cell.setText?]
      cases holdsNul s with
      | true => exact h
      | false => exact grows_freeCell covered h
    | handle offer => exact grows_freeCell covered (grows_recordOf h offer)
    | callable c =>
      have written := grows_toRecord h c
      simp only [LeafContent.put]
      generalize c.toRecord later = given at written ⊢
      obtain ⟨e | r, after⟩ := given
      · exact written
      · exact grows_freeCell covered written

theorem grows_buildTop (h : w.GrowsTo freed later) (i : Nat) (declared : Option TypeInfo)
    (v : Value) : w.GrowsTo freed (v.buildTop i declared cell later).world := by
  rw [Value.buildTop]
  split
  · exact h
  · split
    · cases v.items? with
      | none => exact h
      | some items =>
        simp only [closeArray_world]
        exact grows_buildItems (grows_freeCell covered h) _ _ _ items
    · split
      · exact grows_fill covered h [i] v _
      · exact h

/-- **A top-level position** is filled, and what its cell owned is freed. -/
theorem grows_stepAt {src : ValueSource} (declared : src.declared.length ≤ src.values.length)
    (h : w.GrowsTo freed later) (i : Nat) (s : Unit) :
    w.GrowsTo freed (src.stepAt i cell later s).world := by
  rcases ValueSource.stepAt_cases declared i with ⟨v, -, step⟩ | ⟨-, step⟩
  · rw [step]
    exact grows_buildTop covered h i src.declared[i]? v
  · rw [step]
    exact h

end Growth

/-- **A row of top-level positions** is filled, and what its cells owned is freed. -/
theorem grows_buildRow {w later : World} {freed : Nat → Prop} {src : ValueSource}
    (declared : src.declared.length ≤ src.values.length) {cells : List Cell}
    (covered : ∀ id, w.FreedWith cells id → freed id) (h : w.GrowsTo freed later) (i : Nat) :
    w.GrowsTo freed (buildRow src.stepAt i cells later ()).world := by
  induction cells generalizing i later with
  | nil => exact h
  | cons c cs ih =>
    have first : ∀ id, w.FreedWith [c] id → freed id := fun id gone =>
      covered id (gone.mono (by simp))
    have rest : ∀ id, w.FreedWith cs id → freed id := fun id gone =>
      covered id (gone.mono (List.subset_cons_self c cs))
    have here := grows_stepAt first declared h i ()
    simp only [buildRow]
    cases (src.stepAt i c later ()).outcome with
    | error stop => exact here
    | ok => exact ih rest here (i + 1)

/-! ## 2. What decoding reads -/

namespace Cell

mutual

/-- The ids of this runtime that decoding a cell looks up. -/
def ids : Cell → List Nat
  | plain tag payload _ =>
    match payload with
    | .handle r => if tag == .handle && r.isLocal then [r.handle] else []
    | .callable r => if tag == .callable then (r.point.bind CallPoint.handle?).toList else []
    | _ => []
  | array tag items _ _ => if tag.isArray then idsOf items else []

/-- The ids that decoding some cells looks up. -/
def idsOf : List Cell → List Nat
  | [] => []
  | c :: cs => ids c ++ idsOf cs

end

theorem ids_subset {cells : List Cell} {c : Cell} (mem : c ∈ cells) : c.ids ⊆ idsOf cells := by
  induction cells with
  | nil => cases mem
  | cons d ds ih =>
    rcases List.mem_cons.mp mem with rfl | later
    · exact List.subset_append_left _ _
    · exact List.Subset.trans (ih later) (List.subset_append_right _ _)

theorem mem_ids_of_handle? {c : Cell} {r : HandleRecord} (found : c.handle? = some r)
    (here : r.isLocal = true) : r.handle ∈ c.ids := by
  cases c with
  | array tag items dimensions owned => cases found
  | plain tag payload owned =>
    cases payload with
    | handle record =>
      rw [handle?] at found
      split at found
      next isHandle =>
        obtain rfl := Option.some.inj found
        simp [ids, isHandle, here]
      next => cases found
    | _ => cases found

theorem mem_ids_of_callable? {c : Cell} {r : CallableRecord} (found : c.callable? = some r) {id : Nat}
    (behind : r.point.bind CallPoint.handle? = some id) : id ∈ c.ids := by
  cases c with
  | array tag items dimensions owned => cases found
  | plain tag payload owned =>
    cases payload with
    | callable record =>
      rw [callable?] at found
      split at found
      next isCallable =>
        obtain rfl := Option.some.inj found
        simp [ids, isCallable, behind]
      next => cases found
    | _ => cases found

end Cell

/-- The ids stand for the same in both states. -/
def World.AgreesOn (ids : List Nat) (w w' : World) : Prop :=
  ∀ id ∈ ids, w'.objects.resolve? id = w.objects.resolve? id

theorem World.AgreesOn.mono {ids more : List Nat} {w w' : World} (agrees : w.AgreesOn more w')
    (sub : ids ⊆ more) : w.AgreesOn ids w' :=
  fun id mem => agrees id (sub mem)

/-- The ids that are given from a state to a later one, or that freeing some cells releases. -/
def World.Touched (w : World) (cells : List Cell) (later : World) (id : Nat) : Prop :=
  w.FreedWith cells id ∨ w.objects.nextId ≤ id ∧ id < later.objects.nextId

/-- What is not touched stands for the same afterwards, or for nothing in both states. -/
theorem World.GrowsTo.agreesOn {ids : List Nat} {w later : World} {cells : List Cell}
    (h : w.GrowsTo (w.FreedWith cells) later) (kept : ∀ id ∈ ids, ¬ w.Touched cells later id) :
    w.AgreesOn ids later := by
  intro id mem
  obtain ⟨unfreed, unminted⟩ := not_or.mp (kept id mem)
  by_cases given : id < w.objects.nextId
  · exact h.same id given unfreed
  · have never : ∀ t : HandleTable Object, ¬ id < t.nextId → t.resolve? id = none := fun t later =>
      Option.eq_none_iff_forall_ne_some.mpr fun o found => later (HandleTable.lt_nextId_of_resolve? found)
    rw [never _ given, never _ fun later => unminted ⟨Nat.not_lt.mp given, later⟩]

namespace Cell

variable {w w' : World}

/-- A callable record stands for the same function, or for none in both states. -/
theorem callable?_alike {c : Cell} (agrees : w.AgreesOn c.ids w') :
    (c.callable?.bind fun r => r.callable? w') = c.callable?.bind fun r => r.callable? w := by
  cases found : c.callable? with
  | none => rfl
  | some r =>
    simp only [Option.bind_some, CallableRecord.callable?]
    cases point : r.point with
    | none => rfl
    | some p =>
      have same : w'.functionAt? p = w.functionAt? p := by
        rw [World.functionAt?_eq, World.functionAt?_eq]
        cases handle : p.handle? with
        | none => rfl
        | some id =>
          have named := mem_ids_of_callable? found (by rw [point, Option.bind_some, handle])
          simp only [Option.bind_some, agrees id named]
      simp only [Option.map_some, same]

/-- **Leaves** are decoded alike. -/
theorem decodeLeaf_alike {c : Cell} (agrees : w.AgreesOn c.ids w') (path : IndexPath)
    (supply supply' : Nat) :
    (c.decodeLeaf w' path supply').1.map Value.anonymous =
      (c.decodeLeaf w path supply).1.map Value.anonymous := by
  unfold decodeLeaf
  cases c.tag.kind? with
  | none => rfl
  | some kind =>
    cases kind with
    | null => rfl
    | any => rfl
    | string width =>
      simp only
      cases c.text? <;> rfl
    | callable =>
      simp only [callable?_alike agrees]
      cases c.callable?.bind fun r => r.callable? w <;> rfl
    | handle =>
      simp only
      cases found : c.handle? with
      | none => rfl
      | some r =>
        simp only
        cases r.isNull with
        | true => rfl
        | false =>
          cases here : r.isLocal with
          | false => rfl
          | true =>
            have same : w'.resolveLocal r = w.resolveLocal r := by
              rw [World.resolveLocal, World.resolveLocal,
                agrees r.handle (mem_ids_of_handle? found here)]
            simp only [Bool.false_eq_true, if_false, if_true, same]
            cases w.resolveLocal r <;> rfl
    | _ =>
      simp only
      cases c.scalar? <;> rfl

theorem decodeRow_alike_of {cells : List Cell}
    (each : ∀ c ∈ cells, ∀ path supply supply', (c.decode w' path supply').1.map Value.anonymous =
      (c.decode w path supply).1.map Value.anonymous) (path : IndexPath) (i supply supply' : Nat) :
    (decodeRow w' cells path i supply').1.map (List.map Value.anonymous) =
      (decodeRow w cells path i supply).1.map (List.map Value.anonymous) := by
  induction cells generalizing i supply supply' with
  | nil => rfl
  | cons c cs ih =>
    have here := each c List.mem_cons_self (path ++ [i]) supply supply'
    have rest := ih fun d mem => each d (List.mem_cons_of_mem _ mem)
    rw [decodeRow, decodeRow]
    generalize decode w c (path ++ [i]) supply = first at here ⊢
    generalize decode w' c (path ++ [i]) supply' = first' at here ⊢
    obtain ⟨stop | v, used⟩ := first <;> obtain ⟨stop' | v', used'⟩ := first'
    · obtain rfl : stop' = stop := Except.error.inj here
      rfl
    · cases here
    · cases here
    · have same : v'.anonymous = v.anonymous := Except.ok.inj here
      have behind := rest (i + 1) used used'
      simp only
      generalize decodeRow w cs path (i + 1) used = row at behind ⊢
      generalize decodeRow w' cs path (i + 1) used' = row' at behind ⊢
      obtain ⟨stop | vs, end_⟩ := row <;> obtain ⟨stop' | vs', end'⟩ := row'
      · obtain rfl : stop' = stop := Except.error.inj behind
        rfl
      · cases behind
      · cases behind
      · have sameRest : vs'.map Value.anonymous = vs.map Value.anonymous := Except.ok.inj behind
        simp only [Except.map, List.map_cons, same, sameRest]

/-- **Cells** are decoded alike. -/
theorem decode_alike (c : Cell) (agrees : w.AgreesOn c.ids w') (path : IndexPath)
    (supply supply' : Nat) :
    (c.decode w' path supply').1.map Value.anonymous =
      (c.decode w path supply).1.map Value.anonymous := by
  induction c using Cell.induct generalizing path supply supply' with
  | plain tag payload owned =>
    rw [decode, decode]
    split
    · rfl
    · split
      · rfl
      · exact decodeLeaf_alike agrees path supply supply'
  | array tag items dimensions owned ih =>
    rw [decode, decode]
    split
    · rfl
    · split
      next isArray =>
        have inside : w.AgreesOn (idsOf items) w' := by
          rw [ids, if_pos isArray] at agrees
          exact agrees
        have row := decodeRow_alike_of (fun c mem => ih c mem (inside.mono (ids_subset mem))) path 0
          supply supply'
        generalize decodeRow w items path 0 supply = r at row ⊢
        generalize decodeRow w' items path 0 supply' = r' at row ⊢
        obtain ⟨stop | vs, used⟩ := r <;> obtain ⟨stop' | vs', used'⟩ := r'
        · obtain rfl : stop' = stop := Except.error.inj row
          rfl
        · cases row
        · cases row
        · have same : vs'.map Value.anonymous = vs.map Value.anonymous := Except.ok.inj row
          simp only [Except.map, Value.anonymous_array, same]
      next => exact decodeLeaf_alike agrees path supply supply'

/-- **A row of cells** is decoded alike from states where the ids it names stand for the same. -/
theorem decodeRow_alike {cells : List Cell} (agrees : w.AgreesOn (idsOf cells) w')
    (path : IndexPath) (i supply supply' : Nat) :
    (decodeRow w' cells path i supply').1.map (List.map Value.anonymous) =
      (decodeRow w cells path i supply).1.map (List.map Value.anonymous) :=
  decodeRow_alike_of (fun c mem => c.decode_alike (agrees.mono (ids_subset mem))) path i supply
    supply'

end Cell

end RuntimeBridge
