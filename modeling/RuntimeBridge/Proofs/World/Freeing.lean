/-
# What freeing cells does

Freeing cells releases the call points that were made for them and touches nothing else: the noted
addresses lose those that the cells carry, memory loses the call points that lie there, and the objects
table loses the functions behind them.  A call point whose address is not noted belongs to somebody else
and stays.

Main statements: `releaseRecord_eq`, what freeing one callable record does, and
`cellExports_releaseRecords`, what is noted when many were freed.
-/
import RuntimeBridge.Cell.Array
import RuntimeBridge.Proofs.World.Memory
namespace RuntimeBridge

/-! ## 1. The table -/

namespace HandleTable

variable {α : Type}

/-- Tables are the same if they hold the same and give the same ids from then on. -/
theorem eq_of_entries {s t : HandleTable α} (entries : s.entries = t.entries)
    (nextId : s.nextId = t.nextId) : s = t := by
  cases s
  cases t
  simp_all

/-- A released id is gone, whether or not it stood for anything. -/
theorem entries_release (t : HandleTable α) (id : Nat) :
    (t.release id).2.entries = t.entries.filter fun e => e.1 != id := by
  rw [release]
  cases found : t.resolve? id with
  | some x => rfl
  | none =>
    rw [resolve?, Option.map_eq_none_iff, List.find?_eq_none] at found
    refine (List.filter_eq_self.mpr fun e he => ?_).symm
    simpa using found e he

theorem nextId_release (t : HandleTable α) (id : Nat) : (t.release id).2.nextId = t.nextId := by
  rw [release]
  cases t.resolve? id <;> rfl

/-- The table without an id, if there is one. -/
def dropping (t : HandleTable α) (id? : Option Nat) : HandleTable α :=
  match id? with
  | some id => (t.release id).2
  | none => t

theorem entries_dropping (t : HandleTable α) (id? : Option Nat) :
    (t.dropping id?).entries = t.entries.filter fun e => decide (id? ≠ some e.1) := by
  cases id? with
  | none => exact (List.filter_eq_self.mpr fun e _ => by simp).symm
  | some id =>
    refine (t.entries_release id).trans (List.filter_congr fun e _ => ?_)
    simp [bne, eq_comm, Bool.beq_eq_decide_eq]

theorem nextId_dropping (t : HandleTable α) (id? : Option Nat) :
    (t.dropping id?).nextId = t.nextId := by
  cases id? with
  | none => rfl
  | some id => exact t.nextId_release id

/-- Only the id that is dropped comes to stand for nothing. -/
theorem resolve?_dropping (t : HandleTable α) (id? : Option Nat) (other : Nat) :
    (t.dropping id?).resolve? other = if id? = some other then none else t.resolve? other := by
  cases id? with
  | none => rw [dropping, if_neg (by simp)]
  | some id =>
    rw [dropping, release]
    cases found : t.resolve? id with
    | some x => simp [resolve?_erase, eq_comm]
    | none =>
      by_cases same : id = other
      · simp [← same, found]
      · simp [same]

end HandleTable

/-! ## 2. One record -/

/-- The id that goes with a call point of this runtime. -/
def CallPoint.handle? (p : CallPoint) : Option Nat :=
  match p.target with
  | .exported _ context => some context.handle
  | .remote _ => none

/-- The address of the call point of a record. -/
def CallableRecord.address? (r : CallableRecord) : Option Nat :=
  r.point.map CallPoint.address

/-- The addresses of the call points of some records. -/
def addressesOf (rs : List CallableRecord) : List Nat :=
  rs.filterMap CallableRecord.address?

theorem mem_addressesOf {rs : List CallableRecord} {a : Nat} :
    a ∈ addressesOf rs ↔ ∃ r ∈ rs, r.address? = some a :=
  List.mem_filterMap

theorem addressesOf_append (rs later : List CallableRecord) :
    addressesOf (rs ++ later) = addressesOf rs ++ addressesOf later :=
  List.filterMap_append

namespace World

/-- The function behind a call point is the one registered under its id. -/
theorem functionAt?_eq (w : World) (p : CallPoint) :
    w.functionAt? p = p.handle?.bind fun id => (w.objects.resolve? id).bind Object.function? := by
  rw [functionAt?, CallPoint.handle?]
  cases p.target <;> rfl

theorem releaseObject_eq (w : World) (id : Nat) :
    (w.releaseObject id).2 = { w with objects := w.objects.dropping (some id) } := by
  simp only [releaseObject, HandleTable.dropping, HandleTable.release]
  cases w.objects.resolve? id <;> rfl

/-- The address that releasing an export clears: none, if what lies there is of another runtime. -/
def clearedBy? (w : World) (p : CallPoint) : Option Nat :=
  (w.pointAt p).handle?.map fun _ => p.address

/-- Releasing an export clears its address and releases its function in the objects table, and does
nothing else. -/
theorem releaseExport_eq (w : World) (p : CallPoint) :
    (w.releaseExport (some p)).2 =
      { w with
        objects := w.objects.dropping (w.pointAt p).handle?
        points := w.pointsBeyond (w.clearedBy? p) } := by
  cases target : (w.pointAt p).target with
  | remote routine =>
    simp only [releaseExport, clearedBy?, CallPoint.handle?, target, HandleTable.dropping,
      Option.map_none, pointsBeyond_none]
  | exported shape context =>
    simp only [releaseExport, clearedBy?, CallPoint.handle?, target, Option.map_some,
      ← points_dropPoint]
    have released := (w.dropPoint p).releaseObject_eq context.handle
    rw [dropPoint] at released ⊢
    rw [← released]
    rcases World.releaseObject _ context.handle with ⟨_ | _, after⟩ <;> rfl

/-- The id under which the function is registered that freeing a record releases: if its address is
noted, that of the call point that lies there. -/
def releasedBy? (w : World) (r : CallableRecord) : Option Nat :=
  r.point.bind fun p => if p.address ∈ w.cellExports then (w.pointAt p).handle? else none

/-- The address that freeing a record clears. -/
def vacatedBy? (w : World) (r : CallableRecord) : Option Nat :=
  r.point.bind fun p => if p.address ∈ w.cellExports then w.clearedBy? p else none

theorem of_releasedBy? {w : World} {r : CallableRecord} {id : Nat} (h : w.releasedBy? r = some id) :
    ∃ p, r.point = some p ∧ p.address ∈ w.cellExports ∧ (w.pointAt p).handle? = some id := by
  obtain ⟨p, point, released⟩ := Option.bind_eq_some_iff.mp h
  split at released
  next noted => exact ⟨p, point, noted, released⟩
  next => cases released

theorem of_vacatedBy? {w : World} {r : CallableRecord} {a : Nat} (h : w.vacatedBy? r = some a) :
    r.address? = some a ∧ a ∈ w.cellExports := by
  obtain ⟨p, point, vacated⟩ := Option.bind_eq_some_iff.mp h
  split at vacated
  next noted =>
    obtain ⟨-, -, rfl⟩ := Option.map_eq_some_iff.mp vacated
    exact ⟨congrArg (Option.map CallPoint.address) point, noted⟩
  next => cases vacated

/-- **Freeing a record**: its address is noted no longer, and if it was, the call point there is
dropped and its function released. -/
theorem releaseRecord_eq (w : World) (r : CallableRecord) :
    w.releaseRecord r =
      { w with
        objects := w.objects.dropping (w.releasedBy? r)
        points := w.pointsBeyond (w.vacatedBy? r)
        cellExports := w.cellExports.filter fun a => decide (r.address? ≠ some a) } := by
  have unchanged : ∀ exports : List Nat, exports = w.cellExports →
      w = { w with
        objects := w.objects.dropping none
        points := w.pointsBeyond none
        cellExports := exports } := by
    rintro _ rfl
    rw [pointsBeyond_none]
    rfl
  cases point : r.point with
  | none =>
    simp only [releaseRecord, releasedBy?, vacatedBy?, CallableRecord.address?, point,
      Option.bind_none, Option.map_none]
    exact unchanged _ (List.filter_eq_self.mpr fun a _ => by simp)
  | some p =>
    simp only [releaseRecord, releasedBy?, vacatedBy?, CallableRecord.address?, point,
      Option.bind_some, Option.map_some, List.contains_eq_mem, decide_eq_true_eq]
    by_cases noted : p.address ∈ w.cellExports
    · simp only [if_pos noted, releaseExport_eq]
      congr 1
      refine List.filter_congr fun a _ => ?_
      simp [bne, eq_comm, Bool.beq_eq_decide_eq]
    · simp only [if_neg noted]
      refine unchanged _ (List.filter_eq_self.mpr fun a ha => ?_)
      have : p.address ≠ a := fun same => noted (same ▸ ha)
      simp [this]

/-- **A record that is not noted** belongs to somebody else, and is left alone. -/
theorem releaseRecord_unnoted {w : World} {r : CallableRecord}
    (unnoted : ∀ a, r.address? = some a → a ∉ w.cellExports) : w.releaseRecord r = w := by
  have nothing : w.releasedBy? r = none := Option.eq_none_iff_forall_ne_some.mpr fun id released => by
    obtain ⟨p, point, noted, -⟩ := of_releasedBy? released
    exact unnoted _ (congrArg (Option.map CallPoint.address) point) noted
  have nowhere : w.vacatedBy? r = none := Option.eq_none_iff_forall_ne_some.mpr fun a vacated =>
    unnoted a (of_vacatedBy? vacated).1 (of_vacatedBy? vacated).2
  have kept : w.cellExports.filter (fun a => decide (r.address? ≠ some a)) = w.cellExports :=
    List.filter_eq_self.mpr fun a noted => decide_eq_true fun here => unnoted a here noted
  rw [releaseRecord_eq, nothing, nowhere, kept, pointsBeyond_none]
  rfl

/-- A record that is noted is released, and noted no longer. -/
theorem releaseRecord_noted {w : World} {r : CallableRecord} {p : CallPoint}
    (point : r.point = some p) (noted : p.address ∈ w.cellExports) :
    w.releaseRecord r =
      { w with
        objects := w.objects.dropping (w.pointAt p).handle?
        points := w.pointsBeyond (w.clearedBy? p)
        cellExports := w.cellExports.filter fun a => decide (p.address ≠ a) } := by
  have released : w.releasedBy? r = (w.pointAt p).handle? := by
    rw [releasedBy?, point, Option.bind_some, if_pos noted]
  have vacated : w.vacatedBy? r = w.clearedBy? p := by
    rw [vacatedBy?, point, Option.bind_some, if_pos noted]
  rw [releaseRecord_eq, released, vacated, CallableRecord.address?, point]
  simp only [Option.map_some, ne_eq, Option.some.injEq]

/-- What lies at another address stays there when a record is freed. -/
theorem Holds.releaseRecord {w : World} {p : CallPoint} (h : w.Holds p) {r : CallableRecord}
    (spared : p.address ∉ w.cellExports ∨ r.address? ≠ some p.address) :
    (w.releaseRecord r).Holds p := by
  have points : (w.releaseRecord r).points = w.pointsBeyond (w.vacatedBy? r) := by
    rw [releaseRecord_eq]
  refine h.beyond points fun vacated => ?_
  obtain ⟨here, noted⟩ := of_vacatedBy? vacated
  exact spared.elim (· noted) (· here)

/-! ## 3. Many records -/

/-- Free records, one after the other. -/
def releaseRecords (w : World) (rs : List CallableRecord) : World :=
  rs.foldl releaseRecord w

theorem releaseRecords_cons (w : World) (r : CallableRecord) (rs : List CallableRecord) :
    w.releaseRecords (r :: rs) = (w.releaseRecord r).releaseRecords rs := rfl

theorem releaseRecords_append (w : World) (rs later : List CallableRecord) :
    w.releaseRecords (rs ++ later) = (w.releaseRecords rs).releaseRecords later := by
  simp only [releaseRecords, List.foldl_append]

/-- Freeing cells frees what they own, in order. -/
theorem freeCells_eq (w : World) (cs : List Cell) :
    w.freeCells cs = w.releaseRecords (Cell.ownedRecordsOf cs) := by
  induction cs generalizing w with
  | nil => rfl
  | cons c cs ih =>
    rw [freeCells_cons, ih, Cell.ownedRecordsOf, releaseRecords_append]
    rfl

/-- Freeing changes the noted addresses, the call points in memory and the objects table alone. -/
theorem releaseRecords_frame (w : World) (rs : List CallableRecord) :
    w.releaseRecords rs =
      { w with
        objects := (w.releaseRecords rs).objects
        points := (w.releaseRecords rs).points
        cellExports := (w.releaseRecords rs).cellExports } := by
  induction rs generalizing w with
  | nil => rfl
  | cons r rs ih => rw [releaseRecords_cons, ih, releaseRecord_eq]

/-- **Only what the records carry is cleared**: what lies at an address that none of them has, or that
is not noted, stays there. -/
theorem Holds.releaseRecords {w : World} {p : CallPoint} (h : w.Holds p) {rs : List CallableRecord}
    (spared : p.address ∉ w.cellExports ∨ p.address ∉ addressesOf rs) :
    (w.releaseRecords rs).Holds p := by
  induction rs generalizing w with
  | nil => exact h
  | cons r rs ih =>
    have first : p.address ∉ w.cellExports ∨ r.address? ≠ some p.address :=
      spared.imp_right fun uncarried here =>
        uncarried (mem_addressesOf.mpr ⟨r, List.mem_cons_self, here⟩)
    rw [releaseRecords_cons]
    refine ih (h.releaseRecord first) ?_
    rcases spared with unnoted | uncarried
    · refine .inl fun noted => unnoted ?_
      rw [releaseRecord_eq] at noted
      exact (List.mem_filter.mp noted).1
    · refine .inr fun mem => uncarried ?_
      obtain ⟨r, later, address⟩ := mem_addressesOf.mp mem
      exact mem_addressesOf.mpr ⟨r, List.mem_cons_of_mem _ later, address⟩

theorem mem_taken_releaseRecords {w : World} {rs : List CallableRecord} {a : Nat}
    (taken : a ∈ w.taken) (spared : a ∉ w.cellExports ∨ a ∉ addressesOf rs) :
    a ∈ (w.releaseRecords rs).taken := by
  obtain ⟨p, holds, rfl⟩ := holds_of_mem_taken taken
  exact (holds.releaseRecords spared).address_mem_taken

theorem releaseRecords_unnoted {w : World} {rs : List CallableRecord}
    (unnoted : ∀ r ∈ rs, ∀ a, r.address? = some a → a ∉ w.cellExports) :
    w.releaseRecords rs = w := by
  induction rs with
  | nil => rfl
  | cons r rs ih =>
    obtain ⟨first, rest⟩ := List.forall_mem_cons.mp unnoted
    rw [releaseRecords_cons, releaseRecord_unnoted first, ih rest]

/-- Freeing looks at no cache. -/
theorem releaseRecords_setCache (w : World) (c : CellCache) (rs : List CallableRecord) :
    { w with cache := c }.releaseRecords rs = { w.releaseRecords rs with cache := c } := by
  induction rs generalizing w with
  | nil => rfl
  | cons r rs ih =>
    have first : { w with cache := c }.releaseRecord r = { w.releaseRecord r with cache := c } := by
      rw [releaseRecord_eq, releaseRecord_eq]
      rfl
    rw [releaseRecords_cons, releaseRecords_cons, first, ih]

/-- **The noted addresses** that are left are those that no record carries. -/
theorem cellExports_releaseRecords (w : World) (rs : List CallableRecord) :
    (w.releaseRecords rs).cellExports =
      w.cellExports.filter fun a => decide (a ∉ addressesOf rs) := by
  induction rs generalizing w with
  | nil => exact (List.filter_eq_self.mpr fun a _ => by simp [addressesOf]).symm
  | cons r rs ih =>
    rw [releaseRecords_cons, ih, releaseRecord_eq, List.filter_filter]
    refine List.filter_congr fun a _ => ?_
    rw [Bool.eq_iff_iff]
    simp only [mem_addressesOf, Bool.and_eq_true, decide_eq_true_eq, not_exists, not_and,
      List.forall_mem_cons]
    exact and_comm

/-- Two records with one address release the same, if something lies there. -/
theorem releasedBy?_congr {w : World} {r r' : CallableRecord} (same : r'.address? = r.address?)
    (held : ∀ a, r.address? = some a → a ∈ w.cellExports → a ∈ w.taken) :
    w.releasedBy? r' = w.releasedBy? r := by
  rw [releasedBy?, releasedBy?]
  rw [CallableRecord.address?, CallableRecord.address?] at same
  cases point : r.point with
  | none => rw [Option.map_eq_none_iff.mp (same.trans (congrArg _ point))]
  | some p =>
    rw [point] at same
    obtain ⟨q, point', address⟩ := Option.map_eq_some_iff.mp same
    rw [point', Option.bind_some, Option.bind_some, address]
    split
    next noted =>
      rw [pointAt_congr address (held _ (congrArg (Option.map CallPoint.address) point) noted)]
    next => rfl

/-- What a record releases once another one was freed: nothing, if they carry the same address. -/
theorem releasedBy?_releaseRecord (w : World) (r r' : CallableRecord) :
    (w.releaseRecord r).releasedBy? r' =
      if r'.address? = r.address? then none else w.releasedBy? r' := by
  cases point : r'.point with
  | none => simp [releasedBy?, point]
  | some p =>
    have address : r'.address? = some p.address := congrArg (Option.map CallPoint.address) point
    have noted : (p.address ∈ (w.releaseRecord r).cellExports) ↔
        p.address ∈ w.cellExports ∧ r.address? ≠ some p.address := by
      rw [releaseRecord_eq, List.mem_filter, decide_eq_true_iff]
    rw [releasedBy?, releasedBy?, point, Option.bind_some, Option.bind_some, address]
    by_cases same : r.address? = some p.address
    · rw [if_neg fun here => (noted.mp here).2 same, if_pos same.symm]
    · have elsewhere : w.vacatedBy? r ≠ some p.address := fun vacated =>
        same (of_vacatedBy? vacated).1
      have points : (w.releaseRecord r).points = w.pointsBeyond (w.vacatedBy? r) := by
        rw [releaseRecord_eq]
      rw [if_neg (Ne.symm same), pointAt_beyond points elsewhere]
      simp only [noted, same, ne_eq, not_false_eq_true, and_true]

/-- **The ids that are released** are those that each record would release by itself, if something lies
at each noted address that the records carry. -/
theorem entries_releaseRecords {w : World} {rs : List CallableRecord}
    (held : ∀ a ∈ addressesOf rs, a ∈ w.cellExports → a ∈ w.taken) :
    (w.releaseRecords rs).objects.entries =
      w.objects.entries.filter fun e => decide (∀ r ∈ rs, w.releasedBy? r ≠ some e.1) := by
  induction rs generalizing w with
  | nil => exact (List.filter_eq_self.mpr fun e _ => by simp).symm
  | cons r rs ih =>
    have rest : ∀ a ∈ addressesOf rs, a ∈ (w.releaseRecord r).cellExports →
        a ∈ (w.releaseRecord r).taken := by
      intro a carried noted
      rw [releaseRecord_eq, List.mem_filter, decide_eq_true_iff] at noted
      obtain ⟨r', mem, address⟩ := mem_addressesOf.mp carried
      have taken := held a (mem_addressesOf.mpr ⟨r', List.mem_cons_of_mem r mem, address⟩) noted.1
      obtain ⟨p, holds, rfl⟩ := holds_of_mem_taken taken
      exact (holds.releaseRecord (.inr noted.2)).address_mem_taken
    have first : (w.releaseRecord r).objects.entries =
        w.objects.entries.filter fun e => decide (w.releasedBy? r ≠ some e.1) := by
      rw [releaseRecord_eq, HandleTable.entries_dropping]
    rw [releaseRecords_cons, ih rest, first, List.filter_filter]
    refine List.filter_congr fun e _ => ?_
    rw [Bool.eq_iff_iff]
    simp only [Bool.and_eq_true, decide_eq_true_eq, List.forall_mem_cons,
      releasedBy?_releaseRecord]
    constructor
    · rintro ⟨later, here⟩
      refine ⟨here, fun r' mem => ?_⟩
      by_cases same : r'.address? = r.address?
      · rwa [releasedBy?_congr same fun a address =>
          held a (mem_addressesOf.mpr ⟨r, List.mem_cons_self, address⟩)]
      · have := later r' mem
        rwa [if_neg same] at this
    · rintro ⟨here, later⟩
      refine ⟨fun r' mem => ?_, here⟩
      split
      · exact Option.some_ne_none _ ∘ Eq.symm
      · exact later r' mem

theorem nextId_releaseRecords (w : World) (rs : List CallableRecord) :
    (w.releaseRecords rs).objects.nextId = w.objects.nextId := by
  induction rs generalizing w with
  | nil => rfl
  | cons r rs ih =>
    rw [releaseRecords_cons, ih, releaseRecord_eq]
    exact w.objects.nextId_dropping _

end World

end RuntimeBridge
