/-
# The objects table after construction

Construction mints ids in the middle of a recursion that can fail at any element, and freeing the cells
gives back what was minted for callables, wherever it stopped.  What stays is one entry for each object
and each wrapped value, under an id of its own; what was exported for a cell leaves nothing but its id,
which is never given again.

The argument: beside the process that writes the marks runs one that takes an id for each export and
enters nothing under it (`settleMarks`).  Its table shows that of the process without the ids of the call
points that were made (`hides_writeMarks`).  Freeing the records drops just these ids, as long as no
foreign callable carries an address that is noted, so at the end the two tables are the same
(`objects_releaseRecords_writeMarks`).

A foreign callable may carry the call point that was made for a cell, though, and then freeing the
records takes the function from that cell (`construction_takes_former_entry`).

Main statement: `objects_after_construction`.
-/
import RuntimeBridge.Proofs.Call.Buffers
import RuntimeBridge.Proofs.Call.Exported
import RuntimeBridge.Proofs.Wire.Noted
import RuntimeBridge.Proofs.World.Extends
import Mathlib.Data.List.Forall2
namespace RuntimeBridge

/-! ## 1. The table -/

namespace HandleTable

variable {α : Type} {t s : HandleTable α} {gone : List Nat}

theorem nextId_succ_pos (t : HandleTable α) : 0 < t.nextId + 1 :=
  Nat.succ_pos _

/-- The table after an id was given and taken back. -/
def skip (t : HandleTable α) : HandleTable α where
  entries := t.entries
  nextId := t.nextId + 1
  nextId_pos := t.nextId_succ_pos
  given := fun e he => ⟨(t.given e he).1, Nat.lt_succ_of_lt (t.given e he).2⟩

/-- The table `s` shows the table `t` without some ids. -/
structure Hides (t s : HandleTable α) (gone : List Nat) : Prop where
  entries : s.entries = t.entries.filter fun e => decide (e.1 ∉ gone)
  nextId : s.nextId = t.nextId
  given : ∀ id ∈ gone, id < t.nextId

namespace Hides

theorem nothing (t : HandleTable α) : t.Hides t [] where
  entries := (List.filter_eq_self.mpr fun _ _ => by simp).symm
  nextId := rfl
  given := by simp

/-- What both tables register both show. -/
theorem register (h : t.Hides s gone) (x : α) : (t.register x).2.Hides (s.register x).2 gone where
  entries := by
    have shown : t.nextId ∉ gone := fun mem => Nat.lt_irrefl _ (h.given _ mem)
    simp [HandleTable.register, List.filter_append, h.entries, h.nextId, shown]
  nextId := congrArg Nat.succ h.nextId
  given id mem := Nat.lt_succ_of_lt (h.given id mem)

/-- What only one of them registers is hidden. -/
theorem skip (h : t.Hides s gone) (x : α) : (t.register x).2.Hides s.skip (t.nextId :: gone) where
  entries := by
    simp only [HandleTable.skip, HandleTable.register, h.entries, List.filter_append]
    have last : [(t.nextId, x)].filter (fun e => decide (e.1 ∉ t.nextId :: gone)) = [] := by simp
    rw [last, List.append_nil]
    refine List.filter_congr fun e he => ?_
    have older : e.1 ≠ t.nextId := Nat.ne_of_lt (t.given e he).2
    rw [decide_eq_decide, List.mem_cons, not_or, and_iff_right older]
  nextId := congrArg Nat.succ h.nextId
  given := by
    intro id mem
    rcases List.mem_cons.mp mem with rfl | mem
    · exact Nat.lt_succ_self _
    · exact Nat.lt_succ_of_lt (h.given id mem)

theorem resolve?_eq_none (h : t.Hides s gone) {id : Nat} (mem : id ∈ gone) : s.resolve? id = none := by
  rw [resolve?, Option.map_eq_none_iff, List.find?_eq_none]
  intro e he same
  rw [h.entries, List.mem_filter, decide_eq_true_iff, beq_iff_eq.mp same] at he
  exact he.2 mem

end Hides

end HandleTable

/-! ## 2. Settling -/

/-- What a mark leaves once the records of its cell are freed. -/
def Mark.settle (m : Mark) (w : World) : World :=
  match m with
  | plain | carried _ => w
  | object o => (w.registerObject o).2
  | wrapped v =>
    let (o, w) := w.newObject (.value v)
    (w.registerObject o).2
  | exported _ => { w with objects := w.objects.skip, supply := w.supply + 1 }

def settleMarks (ms : List Mark) (w : World) : World :=
  ms.foldl (fun w m => m.settle w) w

/-- The ids of some call points of this runtime. -/
def handlesOf (ps : List CallPoint) : List Nat :=
  ps.filterMap CallPoint.handle?

theorem mem_handlesOf {ps : List CallPoint} {id : Nat} :
    id ∈ handlesOf ps ↔ ∃ p ∈ ps, p.handle? = some id :=
  List.mem_filterMap

theorem handlesOf_append (ps more : List CallPoint) :
    handlesOf (ps ++ more) = handlesOf ps ++ handlesOf more :=
  List.filterMap_append

/-- Writing a mark, and settling it in a process whose table hides some ids. -/
theorem hides_write (m : Mark) {w v : World} {gone : List Nat} (hides : w.objects.Hides v.objects gone)
    (supply : v.supply = w.supply) :
    (m.write w).2.objects.Hides (m.settle v).objects (handlesOf (m.minted w) ++ gone) ∧
      (m.settle v).supply = (m.write w).2.supply := by
  cases m with
  | plain | carried c => exact ⟨hides, supply⟩
  | object o => exact ⟨hides.register o, supply⟩
  | wrapped u =>
    refine ⟨?_, congrArg Nat.succ supply⟩
    simp only [Mark.settle, World.newObject, supply]
    exact hides.register _
  | exported f => exact ⟨hides.skip _, congrArg Nat.succ supply⟩

theorem hides_writeMarks (ms : List Mark) {w v : World} {gone : List Nat}
    (hides : w.objects.Hides v.objects gone) (supply : v.supply = w.supply) :
    (writeMarks ms w).2.objects.Hides (settleMarks ms v).objects
      (handlesOf (mintedBy ms w) ++ gone) := by
  induction ms generalizing w v gone with
  | nil => exact hides
  | cons m ms ih =>
    obtain ⟨first, supply'⟩ := hides_write m hides supply
    rw [mintedBy, handlesOf_append, List.append_assoc]
    exact ih first supply'

/-! ## 3. Freeing what was written -/

namespace Mints

variable {ms : List Mark} {w after : World} {rs : List CallableRecord} {minted : List CallPoint}

theorem noted (h : Mints ms w rs after minted) {a : Nat} :
    a ∈ after.cellExports ↔ (∃ q ∈ minted, q.address = a) ∨ a ∈ w.cellExports := by
  have exports : after.cellExports = minted.map CallPoint.address ++ w.cellExports := by
    rw [h.frame]
  rw [exports, List.mem_append, List.mem_map]

/-- The noted addresses that the records carry are those of the call points that were made. -/
theorem minted_of_noted (h : Mints ms w rs after minted)
    (unnoted : ∀ c, .carried c ∈ ms → c.point.address ∉ w.cellExports) {a : Nat}
    (mem : a ∈ addressesOf rs) (noted : a ∈ after.cellExports) : ∃ q ∈ minted, q.address = a := by
  rcases h.carried mem with made | ⟨c, carries, rfl⟩
  · exact made
  · exact (h.noted.mp noted).resolve_right (unnoted c carries)

/-- **The ids that are released** are those of the call points that were made. -/
theorem releasedBy?_iff (h : Mints ms w rs after minted)
    (unnoted : ∀ c, .carried c ∈ ms → c.point.address ∉ w.cellExports) {id : Nat} :
    (∃ r ∈ rs, after.releasedBy? r = some id) ↔ id ∈ handlesOf minted := by
  rw [mem_handlesOf]
  constructor
  · rintro ⟨r, mem, released⟩
    obtain ⟨p, point, noted, handle⟩ := World.of_releasedBy? released
    have carried : p.address ∈ addressesOf rs :=
      mem_addressesOf.mpr ⟨r, mem, congrArg (Option.map CallPoint.address) point⟩
    obtain ⟨q, made, address⟩ := h.minted_of_noted unnoted carried noted
    have lies := h.lies q made
    rw [World.pointAt_congr address.symm lies.address_mem_taken, lies.pointAt] at handle
    exact ⟨q, made, handle⟩
  · rintro ⟨q, made, handle⟩
    obtain ⟨r, mem, point⟩ := h.own q made
    have noted : q.address ∈ after.cellExports := h.noted.mpr (.inl ⟨q, made, rfl⟩)
    refine ⟨r, mem, ?_⟩
    rw [World.releasedBy?, point, Option.bind_some, if_pos noted, (h.lies q made).pointAt, handle]

/-- What lay in memory lies there when the records are freed. -/
theorem holds_releaseRecords (h : Mints ms w rs after minted)
    (unnoted : ∀ c, .carried c ∈ ms → c.point.address ∉ w.cellExports) {p : CallPoint}
    (lies : w.Holds p) : (after.releaseRecords rs).Holds p := by
  refine (h.held p lies).releaseRecords ?_
  by_cases carried : p.address ∈ addressesOf rs
  · refine .inl fun noted => ?_
    obtain ⟨q, made, address⟩ := h.minted_of_noted unnoted carried noted
    exact h.fresh q made (address ▸ lies.address_mem_taken)
  · exact .inr carried

/-- A noted address that a foreign callable carries leads to nothing when the records are freed. -/
theorem functionAt?_of_carried (h : Mints ms w rs after minted) {c : ForeignCallable}
    (carries : .carried c ∈ ms) (noted : c.point.address ∈ w.cellExports) {p : CallPoint}
    (lies : w.Holds p) (here : p.address = c.point.address) (gave : after.Gave p) :
    (after.releaseRecords rs).functionAt? p = none := by
  have carried : p.address ∈ addressesOf rs :=
    mem_addressesOf.mpr ⟨c.record, h.foreign c carries, congrArg some here.symm⟩
  have noted_after : p.address ∈ after.cellExports := h.noted.mpr (.inr (here ▸ noted))
  exact World.functionAt?_releaseRecords (h.held p lies) noted_after gave carried

end Mints

/-- **Freeing what was written** leaves the table of the settled marks. -/
theorem objects_releaseRecords_writeMarks (ms : List Mark) {w : World}
    (unnoted : ∀ c, .carried c ∈ ms → c.point.address ∉ w.cellExports) :
    ((writeMarks ms w).2.releaseRecords (writeMarks ms w).1).objects = (settleMarks ms w).objects := by
  have mints := mints_writeMarks ms w
  have hides := hides_writeMarks ms (.nothing w.objects) rfl
  have held : ∀ a ∈ addressesOf (writeMarks ms w).1, a ∈ (writeMarks ms w).2.cellExports →
      a ∈ (writeMarks ms w).2.taken := by
    intro a carried noted
    obtain ⟨q, made, rfl⟩ := mints.minted_of_noted unnoted carried noted
    exact (mints.lies q made).address_mem_taken
  refine HandleTable.eq_of_entries ?_ ?_
  · rw [World.entries_releaseRecords held, hides.entries, List.append_nil]
    refine List.filter_congr fun e _ => ?_
    rw [decide_eq_decide, ← mints.releasedBy?_iff unnoted]
    simp only [not_exists, not_and]
  · rw [World.nextId_releaseRecords, hides.nextId]

theorem isLocal_of_mem_mintedBy (ms : List Mark) {w : World} {q : CallPoint} (mem : q ∈ mintedBy ms w) :
    q.isLocal = true := by
  induction ms generalizing w with
  | nil => cases mem
  | cons m ms ih =>
    rcases List.mem_append.mp mem with later | here
    · exact ih later
    · cases m with
      | exported f =>
        rw [List.mem_singleton.mp here]
        rfl
      | _ => cases here

/-- Nothing is left under the ids of the call points that were made. -/
theorem functionAt?_of_mem_mintedBy (ms : List Mark) {w after : World} {q : CallPoint}
    (mem : q ∈ mintedBy ms w) (objects : after.objects = (settleMarks ms w).objects) :
    after.functionAt? q = none := by
  have hides := hides_writeMarks ms (.nothing w.objects) rfl
  rw [List.append_nil] at hides
  rw [World.functionAt?_eq, objects]
  refine Option.bind_eq_none_iff.mpr fun id handle => ?_
  rw [hides.resolve?_eq_none (mem_handlesOf.mpr ⟨q, mem, handle⟩), Option.bind_none]

/-! ## 4. Accounting -/

/-- The mark registers a handle. -/
def Mark.isHandle : Mark → Bool
  | object _ | wrapped _ => true
  | _ => false

/-- The mark exports a function. -/
def Mark.isExport : Mark → Bool
  | exported _ => true
  | _ => false

/-- The object that a handle mark registers: the object itself, or a new one around the value. -/
inductive Mark.Registers : Mark → Object → Prop
  | object (o : Object) : Registers (.object o) o
  | wrapped (v : Value) (identity : Nat) : Registers (.wrapped v) (.mk identity (.value v))

/-- The account of some marks between two tables: what was added, one entry for each handle, in order,
under ids of their own; and one id taken for each handle and each export. -/
structure Accounts (ms : List Mark) (before after : HandleTable Object)
    (added : List (Nat × Object)) : Prop where
  entries : after.entries = before.entries ++ added
  registers : List.Forall₂ (fun m e => m.Registers e.2) (ms.filter Mark.isHandle) added
  fresh : ∀ e ∈ added, before.nextId ≤ e.1
  ordered : added.Pairwise fun a b => a.1 < b.1
  taken : after.nextId = before.nextId +
    ((ms.filter Mark.isHandle).length + (ms.filter Mark.isExport).length)

namespace Accounts

variable {ms later : List Mark} {s t u : HandleTable Object} {added more : List (Nat × Object)}

theorem nil (t : HandleTable Object) : Accounts [] t t [] where
  entries := (List.append_nil _).symm
  registers := .nil
  fresh := by simp
  ordered := .nil
  taken := rfl

theorem trans (first : Accounts ms s t added) (second : Accounts later t u more) :
    Accounts (ms ++ later) s u (added ++ more) where
  entries := by rw [second.entries, first.entries, List.append_assoc]
  registers := by
    rw [List.filter_append]
    exact List.rel_append first.registers second.registers
  fresh := by
    intro e he
    rcases List.mem_append.mp he with he | he
    · exact first.fresh e he
    · have := second.fresh e he
      have := first.taken
      omega
  ordered := by
    refine List.pairwise_append.mpr ⟨first.ordered, second.ordered, fun a ha b hb => ?_⟩
    have here : a ∈ t.entries := first.entries ▸ List.mem_append_right _ ha
    exact Nat.lt_of_lt_of_le (t.given a here).2 (second.fresh b hb)
  taken := by
    simp only [second.taken, first.taken, List.filter_append, List.length_append]
    omega

/-- What was in the table stays there. -/
theorem resolve?_kept (h : Accounts ms s t added) {id : Nat} (older : id < s.nextId) :
    t.resolve? id = s.resolve? id := by
  have others : added.find? (fun e => e.1 == id) = none := by
    rw [List.find?_eq_none]
    intro e he
    have := h.fresh e he
    have : e.1 ≠ id := by omega
    simpa using this
  rw [HandleTable.resolve?, HandleTable.resolve?, h.entries, List.find?_append, others,
    Option.or_none]

/-- What was exported before is exported still. -/
theorem functionAt?_kept {w after : World} (h : Accounts ms w.objects after.objects added)
    {p : CallPoint} {f : NativeFunction} (found : w.functionAt? p = some f) :
    after.functionAt? p = some f := by
  rw [World.functionAt?_eq, Option.bind_eq_some_iff] at found ⊢
  obtain ⟨id, handle, found⟩ := found
  obtain ⟨o, registered, isFunction⟩ := Option.bind_eq_some_iff.mp found
  have older := HandleTable.lt_nextId_of_resolve? registered
  refine ⟨id, handle, ?_⟩
  rw [h.resolve?_kept older, found]

end Accounts

theorem accounts_settle (m : Mark) (w : World) :
    ∃ added, Accounts [m] w.objects (m.settle w).objects added := by
  cases m with
  | plain => exact ⟨[], by simp [Mark.settle], .nil, by simp, .nil, rfl⟩
  | carried c => exact ⟨[], by simp [Mark.settle], .nil, by simp, .nil, rfl⟩
  | exported f => exact ⟨[], by simp [Mark.settle, HandleTable.skip], .nil, by simp, .nil, rfl⟩
  | object o =>
    exact ⟨[(w.objects.nextId, o)], rfl, .cons (.object o) .nil, by simp, List.pairwise_singleton _ _,
      rfl⟩
  | wrapped v =>
    exact ⟨[(w.objects.nextId, .mk w.supply (.value v))], rfl, .cons (.wrapped v w.supply) .nil,
      by simp, List.pairwise_singleton _ _, rfl⟩

/-- **Settled marks are accounted for.** -/
theorem accounts_settleMarks (ms : List Mark) (w : World) :
    ∃ added, Accounts ms w.objects (settleMarks ms w).objects added := by
  induction ms generalizing w with
  | nil => exact ⟨[], .nil _⟩
  | cons m ms ih =>
    obtain ⟨first, here⟩ := accounts_settle m w
    obtain ⟨rest, behind⟩ := ih (m.settle w)
    exact ⟨first ++ rest, here.trans behind⟩

/-! ## 5. Buffers -/

/-- Construct values in the parameters of a fresh buffer, and free it. -/
def ValueSource.constructAndFree (src : ValueSource) (params retvals : Nat) (w : World) :
    Except Stop Unit × CallBuffer × World :=
  let (b, w) := CallBuffer.alloc params retvals w
  let (outcome, filled, w) := src.construct b.params w
  (outcome, { b with params := filled }, { b with params := filled }.free w)

/-- Construction in the parameters of an empty buffer: its records are those of the marks, and when it
is freed, they are released and its cells go back to the cache. -/
theorem free_construct (src : ValueSource) {b : CallBuffer} {params retvals : Nat} (w : World)
    (emptyParams : b.params.cells = List.replicate params Cell.null)
    (emptyRetvals : b.retvals.cells = List.replicate retvals Cell.null) :
    let filled : CallBuffer := ⟨(src.construct b.params w).2.1, b.retvals⟩
    let written := writeMarks (reached (src.plan params)) w
    filled.records = written.1 ∧
      filled.free (src.construct b.params w).2.2 =
        { written.2.releaseRecords written.1 with
          cache := filled.giveBack (src.construct b.params w).2.2.cache } := by
  have written := (writes_construct src params emptyParams w).written
  have records : CallBuffer.records ⟨(src.construct b.params w).2.1, b.retvals⟩ =
      (writeMarks (reached (src.plan params)) w).1 := by
    rw [written, CallBuffer.records, emptyRetvals, ownedRecordsOf_replicate_null, List.nil_append]
  refine ⟨records, ?_⟩
  rw [CallBuffer.free_eq, records, written]

/-- Writing marks takes back no id. -/
theorem nextId_le_writeMarks (ms : List Mark) (w : World) :
    w.objects.nextId ≤ (writeMarks ms w).2.objects.nextId := by
  obtain ⟨added, accounts⟩ := accounts_settleMarks ms w
  rw [← (hides_writeMarks ms (.nothing w.objects) rfl).nextId, accounts.taken]
  exact Nat.le_add_right _ _

/-- **The objects table after values were constructed and freed.**  Construction succeeds if no position
refuses its value.  Whether it does or not, the table holds what it held before and one entry for each
handle that was written before the first refusal, under a fresh id.  Beyond those of the handles, one id
was taken for each function that was exported for a cell, and nothing is left of those exports.
Whatever was exported before, for foreign callables to carry, is exported still.

All that holds as long as no foreign callable carries an address that is noted.  If one does, the
function that was exported there is lost. -/
theorem objects_after_construction (src : ValueSource) (params retvals : Nat) (w : World) :
    let marks := reached (src.plan params)
    let r := src.constructAndFree params retvals w
    (r.1 = .ok () ↔ ∀ m ∈ src.plan params, m ≠ none) ∧
    ((∀ c, .carried c ∈ marks → c.point.address ∉ w.cellExports) →
      (∃ added, Accounts marks w.objects r.2.2.objects added) ∧
      (∀ record ∈ r.2.1.records, (∃ c, .carried c ∈ marks ∧ record = c.record) ∨
        ∃ p, record.point = some p ∧ p.isLocal = true ∧ r.2.2.functionAt? p = none) ∧
      (∀ p f, w.functionAt? p = some f → r.2.2.functionAt? p = some f) ∧
      (∀ p, w.Holds p → r.2.2.Holds p) ∧
      (w.Sound → r.2.2.cellExports = w.cellExports)) ∧
    ∀ c, .carried c ∈ marks → c.point.address ∈ w.cellExports →
      ∀ p, w.Holds p → p.address = c.point.address → w.functionAt? p ≠ none →
        r.2.2.functionAt? p = none := by
  have ok_iff := (writes_construct src params (CallBuffer.cells_alloc_params params retvals w)
    (CallBuffer.alloc params retvals w).2).ok_iff
  obtain ⟨records, final⟩ := free_construct src (CallBuffer.alloc params retvals w).2
    (CallBuffer.cells_alloc_params params retvals w) (CallBuffer.cells_alloc_retvals params retvals w)
  simp only [ValueSource.constructAndFree, records, final]
  have frame := CallBuffer.alloc_frame params retvals w
  have exports : (CallBuffer.alloc params retvals w).2.cellExports = w.cellExports := by rw [frame]
  have lies_start : ∀ p, w.Holds p → (CallBuffer.alloc params retvals w).2.Holds p := by
    rw [frame]
    exact fun p => id
  have mints := mints_writeMarks (reached (src.plan params)) (CallBuffer.alloc params retvals w).2
  refine ⟨ok_iff, fun unnoted => ?_, ?_⟩
  · rw [← exports] at unnoted
    have objects := objects_releaseRecords_writeMarks _ unnoted
    obtain ⟨added, accounts⟩ := accounts_settleMarks (reached (src.plan params))
      (CallBuffer.alloc params retvals w).2
    rw [← objects, CallBuffer.objects_alloc] at accounts
    refine ⟨⟨added, accounts⟩, ?_, ?_, ?_, ?_⟩
    · intro record mem
      rcases mints.records record mem with ⟨q, made, point⟩ | carried
      · exact .inr ⟨q, point, isLocal_of_mem_mintedBy _ made,
          functionAt?_of_mem_mintedBy _ made objects⟩
      · exact .inl carried
    · exact fun p f => accounts.functionAt?_kept
    · exact fun p lies => mints.holds_releaseRecords unnoted (lies_start p lies)
    · intro sound
      have noted := mints.notedBeyond (CallBuffer.sound_alloc sound params retvals) unnoted
      rw [World.cellExports_releaseRecords, ← exports]
      exact noted
  · intro c carries noted p lies here leads
    have gave : w.Gave p := World.gave_of_functionAt? leads
    have gave_written : (writeMarks (reached (src.plan params))
        (CallBuffer.alloc params retvals w).2).2.Gave p := by
      apply gave.mono
      rw [← CallBuffer.objects_alloc params retvals w]
      exact nextId_le_writeMarks _ _
    exact mints.functionAt?_of_carried carries (exports ▸ noted) (lies_start p lies) here gave_written

/-- A process that exported a function, and a foreign callable that carries the call point. -/
def lender : CallPoint × World :=
  World.exportFunction {} ⟨0, "lent", [], []⟩

def borrowed : ForeignCallable := ⟨lender.1, [], []⟩

/-- An object, a function, a truth value as a handle, a foreign callable, and a text that is refused. -/
def mixedSource : ValueSource where
  values := [.object (.mk 7 (.flag true)), .callable (.native ⟨1, "own", [], []⟩), .scalar (.bool true),
    .callable (.foreign borrowed), .string .w8 "\x00"]
  declared := [.ofTag .any, .ofTag .any, .ofTag .handle]

theorem reached_mixedSource : reached (mixedSource.plan 5) =
    [.object (.mk 7 (.flag true)), .exported ⟨1, "own", [], []⟩, .wrapped (.scalar (.bool true)),
      .carried borrowed] := by
  rfl

theorem unnoted_mixedSource (c : ForeignCallable) (mem : .carried c ∈ reached (mixedSource.plan 5)) :
    c.point.address ∉ lender.2.cellExports := by
  rw [reached_mixedSource] at mem
  obtain rfl : c = borrowed := by simpa using mem
  decide

/-- Construction fails at the text; the object and the wrapped value stay, and three ids are taken. -/
theorem objects_after_construction_mixedSource :
    (mixedSource.constructAndFree 5 0 lender.2).1 ≠ .ok () ∧
      (mixedSource.constructAndFree 5 0 lender.2).2.2.objects.nextId = lender.2.objects.nextId + 3 ∧
      (∃ added, (mixedSource.constructAndFree 5 0 lender.2).2.2.objects.entries =
        lender.2.objects.entries ++ added ∧ added.length = 2) ∧
      (mixedSource.constructAndFree 5 0 lender.2).2.2.functionAt? borrowed.point =
        some ⟨0, "lent", [], []⟩ := by
  obtain ⟨ok_iff, account, -⟩ := objects_after_construction mixedSource 5 0 lender.2
  obtain ⟨⟨added, accounts⟩, -, kept, -, -⟩ := account unnoted_mixedSource
  have refused : none ∈ mixedSource.plan 5 := by
    have last : (mixedSource.plan 5)[4]? = some none := rfl
    exact List.mem_of_getElem? last
  refine ⟨fun ok => ok_iff.mp ok none refused rfl, ?_, ⟨added, accounts.entries, ?_⟩, kept _ _ rfl⟩
  · rw [accounts.taken, reached_mixedSource]
    rfl
  · rw [← accounts.registers.length_eq, reached_mixedSource]
    rfl

/-- A process with a function in a cell, and a foreign callable that carries the call point of the
cell. -/
def owner : CallPoint × World :=
  World.exportForCell {} ⟨0, "owned", [], []⟩

def takenAlong : ValueSource where
  values := [.callable (.foreign ⟨owner.1, [], []⟩)]
  declared := [.ofTag .any]

/-- **The call point of a cell**, carried by a foreign callable, is released with the buffer, and the
function is gone from the table while the cell has it yet. -/
theorem construction_takes_former_entry :
    (takenAlong.constructAndFree 1 0 owner.2).1 = .ok () ∧
      owner.2.functionAt? owner.1 = some ⟨0, "owned", [], []⟩ ∧
      (takenAlong.constructAndFree 1 0 owner.2).2.2.functionAt? owner.1 = none ∧
      ¬ ∃ added, Accounts (reached (takenAlong.plan 1)) owner.2.objects
        (takenAlong.constructAndFree 1 0 owner.2).2.2.objects added := by
  refine ⟨rfl, rfl, rfl, ?_⟩
  rintro ⟨added, accounts⟩
  have emptied : (takenAlong.constructAndFree 1 0 owner.2).2.2.objects.entries = [] := rfl
  exact absurd (emptied.symm.trans accounts.entries) nofun

end RuntimeBridge
