/-
# What a table owes to its history

The answers of a table depend on its history alone: on what was registered, and on what was released
since.  Ids are counted up from 1 and an id that was released is never given again, so a handle that
went stale leads to nothing, whatever is registered later.

A history lists registrations and attempts to release, in order.  An id stands for what was
registered under it if no attempt to release it came after.  The law is an invariant of the table
and its history: calls keep it one by one (`Recorded.step`), so it holds after any run of calls
(`Recorded.run`).  Handle records lead to the objects table of the process, and what is done with
them is one of its calls (`World.afterCalls_eq`).

Main statement: `handle_law`, for tables and for the handle records of the process.
-/
import RuntimeBridge.Proofs.World.Freeing
import Mathlib.Data.List.Nodup
namespace RuntimeBridge

variable {α : Type}

/-! ## 1. Histories -/

/-- What happens to a table: something is registered under a new id, or a release of an id is tried,
which takes out what was registered under it, if anything. -/
inductive TableEvent (α : Type) where
  | registered (id : Nat) (x : α)
  | released (id : Nat) (x? : Option α)

namespace TableEvent

def given? : TableEvent α → Option Nat
  | registered id _ => some id
  | released _ _ => none

/-- What the event took out of the table from under `id`. -/
def taken? (id : Nat) : TableEvent α → Option α
  | registered _ _ => none
  | released other x? => if other = id then x? else none

end TableEvent

/-- The ids given so far, in order. -/
def idsGiven (h : List (TableEvent α)) : List Nat :=
  h.filterMap TableEvent.given?

/-- What releases of `id` took out, in order. -/
def takenOut (h : List (TableEvent α)) (id : Nat) : List α :=
  h.filterMap (TableEvent.taken? id)

/-- `x` was registered under `id`, and no release of `id` was tried since. -/
def StandsFor (h : List (TableEvent α)) (id : Nat) (x : α) : Prop :=
  ∃ before after, h = before ++ .registered id x :: after ∧ ∀ x?, .released id x? ∉ after

theorem idsGiven_registered (h : List (TableEvent α)) (id : Nat) (x : α) :
    idsGiven (h ++ [.registered id x]) = idsGiven h ++ [id] :=
  List.filterMap_append

theorem idsGiven_released (h : List (TableEvent α)) (id : Nat) (x? : Option α) :
    idsGiven (h ++ [.released id x?]) = idsGiven h :=
  List.filterMap_append.trans (List.append_nil _)

theorem takenOut_registered (h : List (TableEvent α)) (new id : Nat) (x : α) :
    takenOut (h ++ [.registered new x]) id = takenOut h id :=
  List.filterMap_append.trans (List.append_nil _)

theorem takenOut_released (h : List (TableEvent α)) (released id : Nat) (x? : Option α) :
    takenOut (h ++ [.released released x?]) id =
      takenOut h id ++ if released = id then x?.toList else [] := by
  rw [takenOut, List.filterMap_append]
  by_cases here : released = id
  · cases x? <;> simp [takenOut, TableEvent.taken?, here]
  · simp [takenOut, TableEvent.taken?, here]

theorem mem_idsGiven {h : List (TableEvent α)} {id : Nat} :
    id ∈ idsGiven h ↔ ∃ x, .registered id x ∈ h := by
  rw [idsGiven, List.mem_filterMap]
  constructor
  · rintro ⟨⟨given, x⟩ | ⟨released, x?⟩, listed, found⟩
    · obtain rfl : given = id := Option.some.inj found
      exact ⟨x, listed⟩
    · cases found
  · rintro ⟨x, listed⟩
    exact ⟨_, listed, rfl⟩

theorem StandsFor.registered {h : List (TableEvent α)} {id : Nat} {x : α}
    (stands : StandsFor h id x) : .registered id x ∈ h := by
  obtain ⟨before, after, rfl, -⟩ := stands
  simp

theorem StandsFor.mem_idsGiven {h : List (TableEvent α)} {id : Nat} {x : α}
    (stands : StandsFor h id x) : id ∈ idsGiven h :=
  RuntimeBridge.mem_idsGiven.mpr ⟨x, stands.registered⟩

/-- What stands before an event other than a release of the id stands after it. -/
theorem StandsFor.concat {h : List (TableEvent α)} {id : Nat} {x : α} {e : TableEvent α}
    (stands : StandsFor h id x) (other : ∀ x?, .released id x? ≠ e) : StandsFor (h ++ [e]) id x := by
  obtain ⟨before, after, rfl, kept⟩ := stands
  refine ⟨before, after ++ [e], by simp, fun x? listed => ?_⟩
  rcases List.mem_append.mp listed with listed | listed
  · exact kept x? listed
  · exact other x? (List.mem_singleton.mp listed)

/-- What stands after an event is what it registered, or stood before it and was not released. -/
theorem StandsFor.of_concat {h : List (TableEvent α)} {id : Nat} {x : α} {e : TableEvent α}
    (stands : StandsFor (h ++ [e]) id x) :
    e = .registered id x ∨ (StandsFor h id x ∧ ∀ x?, .released id x? ≠ e) := by
  obtain ⟨before, after, split, kept⟩ := stands
  rcases List.eq_nil_or_concat after with rfl | ⟨after, last, rfl⟩
  · have := (List.append_inj' split rfl).2
    exact .inl (List.singleton_inj.mp this)
  · rw [List.concat_eq_append, ← List.cons_append, ← List.append_assoc] at split
    obtain ⟨rfl, same⟩ := List.append_inj' split rfl
    obtain rfl : e = last := List.singleton_inj.mp same
    refine .inr ⟨⟨before, after, rfl, fun x? listed => kept x? ?_⟩, fun x? same => kept x? ?_⟩
    · rw [List.concat_eq_append]
      exact List.mem_append_left _ listed
    · rw [same, List.concat_eq_append]
      exact List.mem_append_right _ (List.mem_singleton_self _)

theorem standsFor_registered {h : List (TableEvent α)} {id new : Nat} {x y : α} :
    StandsFor (h ++ [.registered new y]) id x ↔ (id = new ∧ x = y) ∨ StandsFor h id x := by
  constructor
  · intro stands
    rcases stands.of_concat with same | ⟨stood, -⟩
    · obtain ⟨rfl, rfl⟩ := TableEvent.registered.inj same
      exact .inl ⟨rfl, rfl⟩
    · exact .inr stood
  · rintro (⟨rfl, rfl⟩ | stood)
    · exact ⟨h, [], rfl, fun _ => List.not_mem_nil⟩
    · exact stood.concat fun _ => nofun

theorem standsFor_released {h : List (TableEvent α)} {id released : Nat} {x : α} {x? : Option α} :
    StandsFor (h ++ [.released released x?]) id x ↔ id ≠ released ∧ StandsFor h id x := by
  constructor
  · intro stands
    rcases stands.of_concat with same | ⟨stood, kept⟩
    · cases same
    · refine ⟨?_, stood⟩
      rintro rfl
      exact kept x? rfl
  · rintro ⟨other, stood⟩
    refine stood.concat fun y? same => other ?_
    exact (TableEvent.released.inj same).1

/-- `x`, registered under `id`, is still there and was never taken out, or it is gone and was taken
out once. -/
def AccountedFor (h : List (TableEvent α)) (id : Nat) (x : α) : Prop :=
  (StandsFor h id x ∧ takenOut h id = []) ∨ ((∀ y, ¬ StandsFor h id y) ∧ takenOut h id = [x])

/-! ## 2. Calls on a table -/

/-- What is asked of a table. -/
inductive TableCall (α : Type) where
  | register (x : α)
  | resolve (id : Nat)
  | release (id : Nat)
  | contains (id : Nat)
  | size

/-- A table with its history. -/
structure TableRecord (α : Type) where
  history : List (TableEvent α) := []
  table : HandleTable α := .empty

namespace TableRecord

/-- The call is answered: questions leave no trace, the rest goes into the history. -/
def step (s : TableRecord α) : TableCall α → TableRecord α
  | .register x => ⟨s.history ++ [.registered (s.table.register x).1 x], (s.table.register x).2⟩
  | .release id => ⟨s.history ++ [.released id (s.table.release id).1], (s.table.release id).2⟩
  | .resolve _ | .contains _ | .size => s

/-- The calls are answered one after the other. -/
def run (s : TableRecord α) (calls : List (TableCall α)) : TableRecord α :=
  calls.foldl step s

end TableRecord

/-- After a release nothing is under the id, whether or not something was. -/
theorem HandleTable.resolve?_release (t : HandleTable α) (id other : Nat) :
    (t.release id).2.resolve? other = if other = id then none else t.resolve? other := by
  rw [release]
  cases found : t.resolve? id with
  | some x => exact t.resolve?_erase id other
  | none =>
    by_cases here : other = id
    · rw [if_pos here, here, found]
    · rw [if_neg here]

/-! ## 3. The law of a table -/

/-- What a table answers, by its history. -/
structure TableLaw (s : TableRecord α) : Prop where
  /-- Ids count the registrations, so those of the first 2 ^ 64 - 1 fit into 64 bits. -/
  register_eq : ∀ x, (s.table.register x).1 = (idsGiven s.history).length + 1
  /-- The next id is greater than every id given before, and none of these is 0. -/
  register_grows : ∀ x, ∀ id ∈ idsGiven s.history, 0 < id ∧ id < (s.table.register x).1
  resolve_iff : ∀ id x, s.table.resolve? id = some x ↔ StandsFor s.history id x
  contains_iff : ∀ id, s.table.contains id = true ↔ ∃ x, StandsFor s.history id x
  /-- The size is the number of ids that stand for something. -/
  size_eq : ∃ ids : List Nat, ids.Nodup ∧
    (∀ id, id ∈ ids ↔ ∃ x, StandsFor s.history id x) ∧ s.table.size = ids.length
  release_iff : ∀ id x, (s.table.release id).1 = some x ↔ StandsFor s.history id x
  release_stale : ∀ id, (∀ x, ¬ StandsFor s.history id x) → s.table.release id = (none, s.table)
  taken_once : ∀ id x, .registered id x ∈ s.history → AccountedFor s.history id x
  taken_unregistered : ∀ id, id ∉ idsGiven s.history → takenOut s.history id = []
  /-- An id leads to nothing but what was registered under it, whatever came later. -/
  resolve_own : ∀ id x y, .registered id x ∈ s.history → s.table.resolve? id = some y → y = x
  resolve_null : s.table.resolve? 0 = none

/-- The table is what its history made of it. -/
structure Recorded (s : TableRecord α) : Prop where
  ids : idsGiven s.history = List.range' 1 (idsGiven s.history).length
  next : s.table.nextId = (idsGiven s.history).length + 1
  stands : ∀ id x, s.table.resolve? id = some x ↔ StandsFor s.history id x
  nodup : (s.table.entries.map Prod.fst).Nodup
  once : ∀ id x, .registered id x ∈ s.history → AccountedFor s.history id x
  unregistered : ∀ id, id ∉ idsGiven s.history → takenOut s.history id = []

namespace Recorded

variable {s : TableRecord α}

theorem empty : Recorded ({} : TableRecord α) where
  ids := rfl
  next := rfl
  stands id x := by
    constructor
    · nofun
    · rintro ⟨before, after, split, -⟩
      simp at split
  nodup := List.nodup_nil
  once id x listed := absurd listed List.not_mem_nil
  unregistered id _ := rfl

theorem mem_ids (r : Recorded s) {id : Nat} :
    id ∈ idsGiven s.history ↔ 0 < id ∧ id < s.table.nextId := by
  rw [r.ids, r.next, List.mem_range'_1]
  omega

/-- The next id was not given yet. -/
theorem next_fresh (r : Recorded s) : s.table.nextId ∉ idsGiven s.history :=
  fun listed => Nat.lt_irrefl _ (r.mem_ids.mp listed).2

/-- What the table has under an id is what was registered under it. -/
theorem own (r : Recorded s) {id : Nat} {x y : α} (listed : .registered id x ∈ s.history)
    (found : s.table.resolve? id = some y) : y = x := by
  rcases r.once id x listed with ⟨stands, -⟩ | ⟨gone, -⟩
  · rw [(r.stands id x).mpr stands] at found
    exact (Option.some.inj found).symm
  · exact absurd ((r.stands id y).mp found) (gone y)

/-- **A registration**: the id is new, and its thing stands. -/
theorem register (r : Recorded s) (x : α) :
    Recorded ⟨s.history ++ [.registered s.table.nextId x], (s.table.register x).2⟩ := by
  refine ⟨?_, ?_, fun id y => ?_, ?_, fun id y listed => ?_, fun id unlisted => ?_⟩
  · simp only [idsGiven_registered, List.length_append, List.length_singleton, List.range'_concat]
    rw [← r.ids, r.next, Nat.one_mul, Nat.add_comm]
  · simp only [idsGiven_registered, List.length_append, List.length_singleton]
    exact congrArg (· + 1) r.next
  · rw [standsFor_registered, s.table.resolve?_register x id]
    by_cases here : id = s.table.nextId
    · subst here
      have unused : ¬ StandsFor s.history s.table.nextId y :=
        fun stands => r.next_fresh stands.mem_idsGiven
      simp [unused, eq_comm]
    · simp [here, r.stands]
  · show ((s.table.entries ++ [(s.table.nextId, x)]).map Prod.fst).Nodup
    rw [List.map_append, List.nodup_append]
    refine ⟨r.nodup, List.nodup_singleton _, fun id listed other here => ?_⟩
    obtain ⟨e, kept, rfl⟩ := List.mem_map.mp listed
    rw [List.mem_singleton.mp here]
    exact Nat.ne_of_lt (s.table.given e kept).2
  · rw [AccountedFor, takenOut_registered]
    rcases List.mem_append.mp listed with listed | listed
    · have old : id ≠ s.table.nextId := by
        rintro rfl
        exact r.next_fresh (mem_idsGiven.mpr ⟨y, listed⟩)
      simpa [AccountedFor, standsFor_registered, old] using r.once id y listed
    · obtain ⟨rfl, rfl⟩ := TableEvent.registered.inj (List.mem_singleton.mp listed)
      exact .inl ⟨standsFor_registered.mpr (.inl ⟨rfl, rfl⟩), r.unregistered _ r.next_fresh⟩
  · rw [takenOut_registered]
    rw [idsGiven_registered] at unlisted
    exact r.unregistered id fun listed => unlisted (List.mem_append_left _ listed)

/-- What a release takes out is what stood under the id. -/
theorem release_iff (r : Recorded s) (id : Nat) (x : α) :
    (s.table.release id).1 = some x ↔ StandsFor s.history id x := by
  rw [← r.stands, HandleTable.release]
  cases s.table.resolve? id <;> rfl

/-- **A release**: nothing stands under the id from now on, and what stood there is taken out. -/
theorem release (r : Recorded s) (id : Nat) :
    Recorded ⟨s.history ++ [.released id (s.table.release id).1], (s.table.release id).2⟩ := by
  refine ⟨?_, ?_, fun other y => ?_, ?_, fun other y listed => ?_, fun other unlisted => ?_⟩
  · simpa only [idsGiven_released] using r.ids
  · simpa only [idsGiven_released, HandleTable.nextId_release] using r.next
  · rw [standsFor_released, HandleTable.resolve?_release]
    by_cases here : other = id <;> simp [here, r.stands]
  · show ((s.table.release id).2.entries.map Prod.fst).Nodup
    rw [HandleTable.entries_release]
    exact r.nodup.sublist (List.filter_sublist.map _)
  · have registered : .registered other y ∈ s.history := by simpa using listed
    rw [AccountedFor, takenOut_released]
    by_cases here : id = other
    · subst here
      refine .inr ⟨fun z stands => (standsFor_released.mp stands).1 rfl, ?_⟩
      rw [if_pos rfl]
      rcases r.once id y registered with ⟨stands, never⟩ | ⟨gone, once⟩
      · rw [never, (r.release_iff id y).mpr stands]
        rfl
      · have nothing : (s.table.release id).1 = none :=
          Option.eq_none_iff_forall_ne_some.mpr fun z found => gone z ((r.release_iff id z).mp found)
        rw [once, nothing]
        rfl
    · rw [if_neg here, List.append_nil]
      simpa [AccountedFor, standsFor_released, Ne.symm here] using r.once other y registered
  · rw [idsGiven_released] at unlisted
    rw [takenOut_released, r.unregistered other unlisted, List.nil_append]
    by_cases here : id = other
    · subst here
      have nothing : (s.table.release id).1 = none :=
        Option.eq_none_iff_forall_ne_some.mpr fun z found =>
          unlisted ((r.release_iff id z).mp found).mem_idsGiven
      rw [if_pos rfl, nothing]
      rfl
    · rw [if_neg here]

theorem step (r : Recorded s) (call : TableCall α) : Recorded (s.step call) := by
  cases call with
  | register x => exact r.register x
  | release id => exact r.release id
  | resolve | contains | size => exact r

theorem run (r : Recorded s) (calls : List (TableCall α)) : Recorded (s.run calls) := by
  induction calls generalizing s with
  | nil => exact r
  | cons call calls ih => exact ih (r.step call)

/-- **The law**: a table that is what its history made of it answers by its history. -/
theorem law (r : Recorded s) : TableLaw s where
  register_eq _ := r.next
  register_grows _ _ listed := r.mem_ids.mp listed
  resolve_iff := r.stands
  contains_iff id := by
    rw [HandleTable.contains, Option.isSome_iff_exists]
    exact exists_congr (r.stands id)
  size_eq := by
    refine ⟨s.table.entries.map Prod.fst, r.nodup, fun id => ?_, (List.length_map _).symm⟩
    rw [← exists_congr (r.stands id)]
    simp only [HandleTable.resolve?, Option.map_eq_some_iff, List.mem_map]
    constructor
    · rintro ⟨e, listed, rfl⟩
      have found : (s.table.entries.find? fun other => other.1 == e.1).isSome = true :=
        List.find?_isSome.mpr ⟨e, listed, beq_self_eq_true _⟩
      obtain ⟨found, at_id⟩ := Option.isSome_iff_exists.mp found
      exact ⟨found.2, found, at_id, rfl⟩
    · rintro ⟨x, e, found, -⟩
      exact ⟨e, List.mem_of_find?_eq_some found, by simpa using List.find?_some found⟩
  release_iff := r.release_iff
  release_stale id gone := by
    have nothing : s.table.resolve? id = none :=
      Option.eq_none_iff_forall_ne_some.mpr fun x found => gone x ((r.stands id x).mp found)
    rw [HandleTable.release, nothing]
  taken_once := r.once
  taken_unregistered := r.unregistered
  resolve_own _ _ _ := r.own
  resolve_null :=
    Option.eq_none_iff_forall_ne_some.mpr fun x found =>
      Nat.lt_irrefl 0 (r.mem_ids.mp ((r.stands 0 x).mp found).mem_idsGiven).1

end Recorded

/-! ## 4. Handle records -/

/-- What is done with the objects table of a process, and with handle records that lead to it. -/
inductive HandleCall where
  | table (call : TableCall Object)
  | lend (o : Object)
  | resolve (r : HandleRecord)
  | giveBack (r : HandleRecord)

/-- The call on the objects table that it comes to. -/
def HandleCall.asked : HandleCall → TableCall Object
  | .table call => call
  | .lend o => .register o
  | .resolve r => .resolve r.handle
  | .giveBack r => .release r.handle

namespace World

/-- The process after the call. -/
def afterCall (w : World) : HandleCall → World
  | .table (.register o) => (w.registerObject o).2
  | .table (.release id) => (w.releaseObject id).2
  | .table (.resolve _) | .table (.contains _) | .table .size | .resolve _ => w
  | .lend o => (w.localHandle o).2
  | .giveBack r => w.runHook .objectsTable r

def afterCalls (w : World) (calls : List HandleCall) : World :=
  calls.foldl afterCall w

theorem afterCall_eq (h : List (TableEvent Object)) (w : World) (call : HandleCall) :
    w.afterCall call =
      { w with objects := (TableRecord.step ⟨h, w.objects⟩ call.asked).table } := by
  have release : ∀ id, (w.releaseObject id).2 = { w with objects := (w.objects.release id).2 } :=
    w.releaseObject_eq
  cases call with
  | table call => cases call with
    | release id => exact release id
    | _ => rfl
  | giveBack r => exact release r.handle
  | _ => rfl

/-- **A process and its objects table**: only the table changes, by the calls it is asked. -/
theorem afterCalls_eq (s : TableRecord Object) (w : World) (calls : List HandleCall) :
    { w with objects := s.table }.afterCalls calls =
      { w with objects := (s.run (calls.map HandleCall.asked)).table } := by
  induction calls generalizing s with
  | nil => rfl
  | cons call calls ih =>
    have first := afterCall_eq s.history { w with objects := s.table } call
    show ({ w with objects := s.table }.afterCall call).afterCalls calls = _
    rw [first]
    exact ih (s.step call.asked)

end World

/-- What handle records lead to, by the history of the objects table. -/
structure RecordLaw (h : List (TableEvent Object)) (w : World) : Prop where
  table : TableLaw ⟨h, w.objects⟩
  lend_eq : ∀ o, w.localHandle o =
    (.ofLocal ((idsGiven h).length + 1), { w with objects := (w.objects.register o).2 })
  resolve_iff : ∀ r o, w.resolveLocal r = .ok o ↔ StandsFor h r.handle o
  resolve_stale : ∀ r, (∀ o, ¬ StandsFor h r.handle o) →
    w.resolveLocal r = .error (.notFound r.handle)
  release_iff : ∀ id o, (w.releaseObject id).1 = .ok o ↔ StandsFor h id o
  release_stale : ∀ id, (∀ o, ¬ StandsFor h id o) → w.releaseObject id = (.error (.notFound id), w)
  /-- The callback takes out what stood under the handle, and does nothing a second time. -/
  giveBack_eq : ∀ r, w.runHook .objectsTable r =
    { w with objects := (w.objects.release r.handle).2 }
  giveBack_stale : ∀ r, (∀ o, ¬ StandsFor h r.handle o) → w.runHook .objectsTable r = w

theorem TableLaw.records {h : List (TableEvent Object)} {w : World}
    (law : TableLaw ⟨h, w.objects⟩) : RecordLaw h w := by
  have nothing : ∀ id, (∀ o, ¬ StandsFor h id o) → w.objects.resolve? id = none := fun id gone =>
    Option.eq_none_iff_forall_ne_some.mpr fun o found => gone o ((law.resolve_iff id o).mp found)
  have released : ∀ id, (∀ o, ¬ StandsFor h id o) →
      w.releaseObject id = (.error (.notFound id), w) := fun id gone => by
    simp only [World.releaseObject, HandleTable.release, nothing id gone]
  refine ⟨law, fun o => ?_, fun r o => ?_, fun r gone => ?_, fun id o => ?_, released, fun r => ?_,
    fun r gone => ?_⟩
  · rw [← law.register_eq o]
    rfl
  · rw [← law.resolve_iff, World.resolveLocal]
    cases w.objects.resolve? r.handle <;> simp
  · rw [World.resolveLocal, nothing _ gone]
  · rw [← law.release_iff]
    simp only [World.releaseObject]
    rcases w.objects.release id with ⟨_ | _, after⟩ <;> simp
  · exact w.releaseObject_eq r.handle
  · exact congrArg Prod.snd (released r.handle gone)

/-- **The handle table law**: whatever was asked of a table since it was made, it answers by its
history, and so do the handle records of a process whose objects table was empty. -/
theorem handle_law :
    (∀ (α : Type) (calls : List (TableCall α)), TableLaw (TableRecord.run {} calls)) ∧
    ∀ (w : World) (calls : List HandleCall),
      RecordLaw (TableRecord.run {} (calls.map HandleCall.asked)).history
        ({ w with objects := .empty }.afterCalls calls) := by
  refine ⟨fun α calls => (Recorded.empty.run calls).law, fun w calls => ?_⟩
  have law := (Recorded.empty.run (calls.map HandleCall.asked)).law
  rw [World.afterCalls_eq {} w calls]
  exact law.records

end RuntimeBridge
