/-
# The addresses that construction notes

Constructing callable cells makes call points and notes their addresses, and each of these is carried by
a record in the cells.  The other records carry the call points of foreign callables.  So if none of
those belongs to a cell, the noted addresses that no record carries are the ones noted before.

Main statements: `mints_writeMarks` for the marks that are written, and `construct_notes`.
-/
import RuntimeBridge.Proofs.World.Sound
import RuntimeBridge.Proofs.Wire.Marks
namespace RuntimeBridge

/-! ## 1. Noted beyond some records -/

namespace World

/-- The noted addresses that no record carries: those left when the records are freed. -/
def notedBeyond (w : World) (rs : List CallableRecord) : List Nat :=
  w.cellExports.filter fun a => decide (a ∉ addressesOf rs)

theorem notedBeyond_nil (w : World) : w.notedBeyond [] = w.cellExports :=
  List.filter_eq_self.mpr fun a _ => by simp [addressesOf]

theorem notedBeyond_append (w : World) (rs later : List CallableRecord) :
    w.notedBeyond (rs ++ later) =
      (w.notedBeyond later).filter fun a => decide (a ∉ addressesOf rs) := by
  rw [notedBeyond, notedBeyond, List.filter_filter]
  refine List.filter_congr fun a _ => ?_
  rw [Bool.eq_iff_iff]
  simp only [addressesOf_append, List.mem_append, not_or, Bool.and_eq_true, decide_eq_true_eq]

theorem notedBeyond_comm (w : World) (rs later : List CallableRecord) :
    w.notedBeyond (rs ++ later) = w.notedBeyond (later ++ rs) := by
  refine List.filter_congr fun a _ => ?_
  rw [decide_eq_decide, addressesOf_append, addressesOf_append, List.mem_append, List.mem_append,
    or_comm]

end World

/-! ## 2. Marks -/

/-- The call point that a mark makes, if it makes one. -/
def Mark.minted : Mark → World → List CallPoint
  | exported f, w => [(w.exportForCell f).1]
  | _, _ => []

/-- The call points that marks make, the newest first. -/
def mintedBy : List Mark → World → List CallPoint
  | [], _ => []
  | m :: ms, w => mintedBy ms (m.write w).2 ++ m.minted w

/-- What writing marks does to the process: objects are registered, identities are given out, and call
points are placed where nothing lies, at addresses that are noted.  Each lies in memory afterwards, and a
record carries it; the other records are those of foreign callables. -/
structure Mints (ms : List Mark) (w : World) (rs : List CallableRecord) (after : World)
    (minted : List CallPoint) : Prop where
  frame : after =
    { w with
      objects := after.objects
      points := after.points
      cellExports := minted.map CallPoint.address ++ w.cellExports
      supply := after.supply }
  supply : w.supply ≤ after.supply
  held : ∀ p, w.Holds p → after.Holds p
  lies : ∀ q ∈ minted, after.Holds q
  fresh : ∀ q ∈ minted, q.address ∉ w.taken
  own : ∀ q ∈ minted, ∃ r ∈ rs, r.point = some q
  foreign : ∀ c, .carried c ∈ ms → c.record ∈ rs
  records : ∀ r ∈ rs, (∃ q ∈ minted, r.point = some q) ∨ ∃ c, .carried c ∈ ms ∧ r = c.record

namespace Mints

variable {ms later : List Mark} {w w' after : World} {rs rs' : List CallableRecord}
  {minted minted' : List CallPoint}

theorem nil (w : World) : Mints [] w [] w [] :=
  ⟨rfl, Nat.le_refl _, fun _ => id, nofun, nofun, nofun, nofun, nofun⟩

theorem append (first : Mints ms w rs w' minted) (second : Mints later w' rs' after minted') :
    Mints (ms ++ later) w (rs ++ rs') after (minted' ++ minted) where
  frame := by
    rw [second.frame, first.frame]
    simp only [List.map_append, List.append_assoc]
  supply := Nat.le_trans first.supply second.supply
  held p lies := second.held p (first.held p lies)
  lies := by
    intro q mem
    rcases List.mem_append.mp mem with new | before
    · exact second.lies q new
    · exact second.held q (first.lies q before)
  fresh := by
    intro q mem
    rcases List.mem_append.mp mem with new | before
    · refine fun taken => second.fresh q new ?_
      obtain ⟨p, holds, address⟩ := World.holds_of_mem_taken taken
      exact address ▸ (first.held p holds).address_mem_taken
    · exact first.fresh q before
  own := by
    intro q mem
    rcases List.mem_append.mp mem with new | before
    · obtain ⟨r, carries, point⟩ := second.own q new
      exact ⟨r, List.mem_append_right rs carries, point⟩
    · obtain ⟨r, carries, point⟩ := first.own q before
      exact ⟨r, List.mem_append_left rs' carries, point⟩
  foreign := by
    intro c mem
    rcases List.mem_append.mp mem with mem | mem
    · exact List.mem_append_left rs' (first.foreign c mem)
    · exact List.mem_append_right rs (second.foreign c mem)
  records := by
    intro r mem
    rcases List.mem_append.mp mem with mem | mem
    · refine (first.records r mem).imp ?_ ?_
      · exact fun ⟨q, made, point⟩ => ⟨q, List.mem_append_right minted' made, point⟩
      · exact fun ⟨c, carries, same⟩ => ⟨c, List.mem_append_left later carries, same⟩
    · refine (second.records r mem).imp ?_ ?_
      · exact fun ⟨q, made, point⟩ => ⟨q, List.mem_append_left minted made, point⟩
      · exact fun ⟨c, carries, same⟩ => ⟨c, List.mem_append_right ms carries, same⟩

/-- An address that the records carry is that of a call point that was made, or that of a foreign
callable. -/
theorem carried (h : Mints ms w rs after minted) {a : Nat} (mem : a ∈ addressesOf rs) :
    (∃ q ∈ minted, q.address = a) ∨ ∃ c, .carried c ∈ ms ∧ c.point.address = a := by
  obtain ⟨r, here, address⟩ := mem_addressesOf.mp mem
  rcases h.records r here with ⟨q, made, point⟩ | ⟨c, carries, rfl⟩
  · rw [CallableRecord.address?, point] at address
    exact .inl ⟨q, made, Option.some.inj address⟩
  · exact .inr ⟨c, carries, Option.some.inj address⟩

theorem own_address (h : Mints ms w rs after minted) {q : CallPoint} (made : q ∈ minted) :
    q.address ∈ addressesOf rs := by
  obtain ⟨r, mem, point⟩ := h.own q made
  exact mem_addressesOf.mpr ⟨r, mem, congrArg (Option.map CallPoint.address) point⟩

/-- An address that was noted before, where something lay, is carried by no record, unless it is that of
a foreign callable. -/
theorem uncarried (h : Mints ms w rs after minted)
    (unnoted : ∀ c, .carried c ∈ ms → c.point.address ∉ w.cellExports) {a : Nat}
    (noted : a ∈ w.cellExports) (taken : a ∈ w.taken) : a ∉ addressesOf rs := by
  intro mem
  rcases h.carried mem with ⟨q, made, rfl⟩ | ⟨c, carries, rfl⟩
  · exact h.fresh q made taken
  · exact unnoted c carries noted

/-- If no call point of a cell was carried, the addresses noted before are those that are left. -/
theorem notedBeyond (h : Mints ms w rs after minted) (sound : w.Sound)
    (unnoted : ∀ c, .carried c ∈ ms → c.point.address ∉ w.cellExports) :
    after.notedBeyond rs = w.cellExports := by
  have gone : (minted.map CallPoint.address).filter (fun a => decide (a ∉ addressesOf rs)) = [] := by
    refine List.filter_eq_nil_iff.mpr fun a mem => ?_
    obtain ⟨q, made, rfl⟩ := List.mem_map.mp mem
    simpa using h.own_address made
  have kept : w.cellExports.filter (fun a => decide (a ∉ addressesOf rs)) = w.cellExports :=
    List.filter_eq_self.mpr fun a noted =>
      decide_eq_true (h.uncarried unnoted noted (sound.noted a noted))
  rw [World.notedBeyond, h.frame]
  simp only [List.filter_append, gone, kept, List.nil_append]

end Mints

theorem mints_write (m : Mark) (w : World) :
    Mints [m] w (m.write w).1 (m.write w).2 (m.minted w) := by
  cases m with
  | plain | object o =>
    exact ⟨rfl, Nat.le_refl _, fun _ => id, nofun, nofun, nofun, by simp, nofun⟩
  | wrapped v =>
    exact ⟨rfl, Nat.le_succ _, fun _ => id, nofun, nofun, nofun, by simp, nofun⟩
  | exported f =>
    have vacant : (w.exportForCell f).1.address ∉ w.taken :=
      (w.registerObject (.ofFunction f)).2.placePoint_vacant _
    have lies : (w.exportForCell f).2.Holds (w.exportForCell f).1 :=
      (w.registerObject (.ofFunction f)).2.holds_placePoint _
    have made : (w.exportForCell f).1 ∈ [(w.exportForCell f).1] := List.mem_singleton_self _
    refine ⟨rfl, Nat.le_succ _, fun p holds => holds.cons rfl vacant, ?_, ?_, ?_, by simp, ?_⟩
    · rintro q mem
      rwa [List.mem_singleton.mp mem]
    · rintro q mem
      rwa [List.mem_singleton.mp mem]
    · rintro q mem
      exact ⟨exportedRecord f w, List.mem_singleton_self _, by rw [List.mem_singleton.mp mem]; rfl⟩
    · rintro r mem
      exact .inl ⟨_, made, by rw [List.mem_singleton.mp mem]; rfl⟩
  | carried c =>
    refine ⟨rfl, Nat.le_refl _, fun _ => id, nofun, nofun, nofun, fun c' mem => ?_, fun r mem => ?_⟩
    · obtain rfl : c' = c := by simpa using mem
      exact List.mem_singleton_self _
    · exact .inr ⟨c, List.mem_singleton_self _, List.mem_singleton.mp mem⟩

/-- **Writing marks** makes call points and notes them. -/
theorem mints_writeMarks (ms : List Mark) (w : World) :
    Mints ms w (writeMarks ms w).1 (writeMarks ms w).2 (mintedBy ms w) := by
  induction ms generalizing w with
  | nil => exact .nil w
  | cons m ms ih => exact (mints_write m w).append (ih (m.write w).2)

theorem sound_write (m : Mark) {w : World} (sound : w.Sound) : (m.write w).2.Sound := by
  cases m with
  | plain | carried c => exact sound
  | object o => exact sound.registerObject o
  | wrapped v => exact (sound.newObject (.value v)).registerObject _
  | exported f => exact sound.exportForCell f

theorem sound_writeMarks (ms : List Mark) {w : World} (sound : w.Sound) :
    (writeMarks ms w).2.Sound := by
  induction ms generalizing w with
  | nil => exact sound
  | cons m ms ih => exact ih (sound_write m sound)

/-! ## 3. Where carried call points come from -/

theorem mem_of_mem_reached {m : Mark} {plan : List (Option Mark)} (mem : m ∈ reached plan) :
    some m ∈ plan := by
  induction plan with
  | nil => simp [reached] at mem
  | cons first rest ih =>
    cases first with
    | none => simp [reached] at mem
    | some n =>
      rcases List.mem_cons.mp mem with rfl | mem
      · exact List.mem_cons_self
      · exact List.mem_cons_of_mem _ (ih mem)

namespace Value

theorem eq_foreign_of_mark? {v : Value} {kind : BaseKind} {c : ForeignCallable}
    (h : v.mark? kind = some (.carried c)) : v = .callable (.foreign c) := by
  cases kind with
  | callable =>
    simp only [mark?, Option.bind_eq_some_iff] at h
    obtain ⟨callable, isCallable, marked⟩ := h
    obtain rfl : v = .callable callable := by cases v <;> simp_all [callable?]
    split at marked
    · cases callable with
      | native f => simp [Callable.mark] at marked
      | foreign c' =>
        obtain rfl : c' = c := by simpa [Callable.mark] using marked
        rfl
    · simp at marked
  | handle => cases v <;> simp [mark?, handleMark] at h
  | null | any => simp [mark?] at h
  | string width =>
    simp only [mark?, Option.bind_eq_some_iff] at h
    obtain ⟨s, -, marked⟩ := h
    split at marked <;> simp at marked
  | _ =>
    simp only [mark?] at h
    split at h <;> simp at h

theorem mem_planItems {m : Mark} {declared : Option BaseKind} {flat : Bool} {items : List Value}
    (mem : some m ∈ planItems declared flat items) : ∃ v ∈ items, some m ∈ v.plan declared := by
  induction items with
  | nil => simp [planItems] at mem
  | cons v vs ih =>
    rw [planItems, List.mem_append, List.mem_append] at mem
    rcases mem with (mem | mem) | mem
    · exact ⟨v, List.mem_cons_self, mem⟩
    · split at mem <;> simp at mem
    · obtain ⟨u, later, mem⟩ := ih mem
      exact ⟨u, List.mem_cons_of_mem v later, mem⟩

theorem foreign_mem_leaves_of_plan {c : ForeignCallable} {declared : Option BaseKind} {v : Value}
    (mem : some (.carried c) ∈ v.plan declared) : .callable (.foreign c) ∈ v.leaves := by
  induction v using Value.induct with
  | leaf v leaf =>
    rw [plan_leaf leaf, List.mem_singleton] at mem
    obtain rfl := eq_foreign_of_mark? mem.symm
    rw [leaves_of_leaf leaf]
    exact List.mem_singleton_self _
  | array items ih =>
    rw [plan] at mem
    obtain ⟨v, here, mem⟩ := mem_planItems mem
    rw [leaves_array]
    exact leaves_subset here (ih v here mem)

theorem foreign_mem_leaves_of_topPlan {c : ForeignCallable} {declared : Option TypeInfo} {v : Value}
    (mem : some (.carried c) ∈ v.topPlan declared) : .callable (.foreign c) ∈ v.leaves := by
  simp only [topPlan] at mem
  split at mem
  · simp at mem
  · split at mem
    · cases found : v.items? with
      | none => simp [found] at mem
      | some items =>
        simp only [found] at mem
        obtain ⟨u, here, mem⟩ := mem_planItems mem
        rw [eq_array_of_items? found, leaves_array]
        exact leaves_subset here (foreign_mem_leaves_of_plan mem)
    · obtain ⟨kind, -, marked⟩ := Option.bind_eq_some_iff.mp (List.mem_singleton.mp mem).symm
      obtain rfl := eq_foreign_of_mark? marked
      exact List.mem_singleton_self _

end Value

/-- A call point that construction carries is that of a foreign callable among the values. -/
theorem ValueSource.foreign_mem_leavesOf {src : ValueSource} {count : Nat} {c : ForeignCallable}
    (mem : .carried c ∈ reached (src.plan count)) :
    .callable (.foreign c) ∈ Value.leavesOf src.values := by
  obtain ⟨i, -, mem⟩ := List.mem_flatMap.mp (mem_of_mem_reached mem)
  rw [planAt] at mem
  cases atIndex : src.values[i]? with
  | none =>
    simp only [atIndex, List.mem_singleton] at mem
    obtain ⟨info, -, marked⟩ := Option.bind_eq_some_iff.mp mem.symm
    split at marked <;> simp at marked
  | some v =>
    simp only [atIndex] at mem
    exact Value.leaves_subset (List.mem_of_getElem? atIndex)
      (Value.foreign_mem_leaves_of_topPlan mem)

/-- **What construction notes** its records carry, so that the noted addresses beyond them are those
from before; and apart from that it registers objects and takes identities. -/
theorem construct_notes (src : ValueSource) (count : Nat) {a : CellArray}
    (empty : a.cells = List.replicate count Cell.null) {w : World} (sound : w.Sound)
    (calm : ∀ c, .callable (.foreign c) ∈ Value.leavesOf src.values →
      c.point.address ∉ w.cellExports) :
    ∃ objects points exports supply, (src.construct a w).2.2 =
        { w with
          objects := objects
          points := points
          cellExports := exports
          supply := supply } ∧
      w.supply ≤ supply ∧ (∀ x ∈ w.taken, x ∈ (src.construct a w).2.2.taken) ∧
      (src.construct a w).2.2.Sound ∧
      (src.construct a w).2.2.notedBeyond (Cell.ownedRecordsOf (src.construct a w).2.1.cells) =
        w.cellExports := by
  have written := (writes_construct src count empty w).written
  have mints := mints_writeMarks (reached (src.plan count)) w
  have sound' := sound_writeMarks (reached (src.plan count)) sound
  rw [written] at mints sound'
  refine ⟨_, _, _, _, mints.frame, mints.supply, fun x taken => ?_, sound',
    mints.notedBeyond sound fun c mem => calm c (ValueSource.foreign_mem_leavesOf mem)⟩
  obtain ⟨p, holds, rfl⟩ := World.holds_of_mem_taken taken
  exact (mints.held p holds).address_mem_taken

end RuntimeBridge
