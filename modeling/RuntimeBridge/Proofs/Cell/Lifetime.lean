/-
# The life of a cell

A cell that was null is filled, freed and filled again, and so are the elements of the arrays in it, to
any depth.  At every moment it gives what was stored last.  The exports in it are the ones that are open
in the ledger: an operation adds at most one and frees those whose place it takes, each once, since no
export lies in two places.

Main statement: `cell_life`.
-/
import RuntimeBridge.Proofs.Cell.Stored
namespace RuntimeBridge

/-! ## 1. What one operation frees -/

/-- Exports in a row give way to a new one or to nothing, and are freed behind it. -/
inductive Swapped (w : World) : List Issue → List Issue → World → Prop
  | freed (front gone back : List Issue) :
    Swapped w (front ++ gone ++ back) (front ++ back) (w.releaseRecords (gone.map Issue.record))
  | exported (front gone back : List Issue) (f : NativeFunction) :
    Swapped w (front ++ gone ++ back) (front ++ w.exportNext f :: back)
      ((w.exportForCell f).2.releaseRecords (gone.map Issue.record))

namespace Swapped

variable {w w' : World} {es es' : List Issue}

theorem refl (w : World) (es : List Issue) : Swapped w es es w := by
  have swapped := freed (w := w) es [] []
  rwa [List.append_nil, List.append_nil] at swapped

/-- Nothing takes the place of all. -/
theorem emptied (w : World) (es : List Issue) :
    Swapped w es [] (w.releaseRecords (es.map Issue.record)) := by
  have swapped := freed (w := w) [] es []
  rwa [List.append_nil] at swapped

/-- What lies beside stays. -/
theorem within (swapped : Swapped w es es' w') (before behind : List Issue) :
    Swapped w (before ++ es ++ behind) (before ++ es' ++ behind) w' := by
  cases swapped with
  | freed front gone back =>
    have wider := freed (w := w) (before ++ front) gone (back ++ behind)
    simpa only [List.append_assoc] using wider
  | exported front gone back f =>
    have wider := exported (w := w) (before ++ front) gone (back ++ behind) f
    simpa only [List.append_assoc, List.cons_append] using wider

end Swapped

namespace Stored

/-- The exports of the elements, before and behind one of them. -/
theorem exportsOf_set {items : List Stored} {k : Nat} {item : Stored} (here : items[k]? = some item) :
    ∃ before behind, exportsOf items = before ++ item.exports ++ behind ∧
      ∀ new, exportsOf (items.set k new) = before ++ new.exports ++ behind := by
  obtain ⟨inside, rfl⟩ := List.getElem?_eq_some_iff.mp here
  have middle : ∀ new, exportsOf (items.set k new) =
      exportsOf (items.take k) ++ new.exports ++ exportsOf (items.drop (k + 1)) := by
    intro new
    rw [List.set_eq_take_append_cons_drop, if_pos inside]
    simp [exportsOf_eq_flatMap]
  refine ⟨_, _, ?_, middle⟩
  rw [← middle, List.set_getElem_self]

theorem freeCell_cell (s : Stored) (w : World) :
    w.freeCell s.cell = w.releaseRecords (s.exports.map Issue.record) := by
  rw [← s.ownedRecords_cell]
  rfl

end Stored

/-- **An operation** frees the exports whose place it takes, and no others. -/
theorem Done.swapped {w : World} {s : Stored} {new? : Option Stored} {changed : Changed}
    (done : Done w s new? changed) : Swapped w s.exports (new?.getD s).exports changed.world := by
  induction done with
  | refused => exact .refl w _
  | @filled s new plain =>
    rw [Option.getD_some, plain, s.freeCell_cell]
    exact .emptied w s.exports
  | @exported s f =>
    have swapped := Swapped.exported (w := w) [] s.exports [] f
    rwa [List.append_nil, ← s.freeCell_cell] at swapped
  | within here inner ih =>
    obtain ⟨before, behind, all, set⟩ := Stored.exportsOf_set here
    rw [Stored.getD_set here, Stored.exports, Stored.exports, all, set]
    exact ih.within before behind

/-! ## 2. The ledger of a cell -/

/-- The exports that are open are those in the cell, each there once and noted, and otherwise the table
holds what it held at the start. -/
structure Kept (origin : World) (l : Ledger) (es : List Issue) (w : World) : Prop where
  tallies : l.Tallies w
  direct : l.direct = origin.objects.entries
  held : ∀ e, l.IsOpen e ↔ e ∈ es
  noted : ∀ e ∈ es, e.point.address ∈ w.cellExports
  once : es.Nodup

namespace Kept

variable {origin w w' : World} {l : Ledger} {es es' : List Issue} {e : Issue}

theorem start (w : World) : Kept w ⟨[], [], w.objects.entries⟩ [] w where
  tallies := .of_table w
  direct := rfl
  held := by simp [Ledger.IsOpen]
  noted := by simp
  once := List.nodup_nil

/-- It does not matter in which order the exports lie in the cell. -/
theorem perm (kept : Kept origin l es w) (same : es.Perm es') : Kept origin l es' w where
  tallies := kept.tallies
  direct := kept.direct
  held e := (kept.held e).trans same.mem_iff
  noted e mem := kept.noted e (same.mem_iff.mpr mem)
  once := same.nodup_iff.mp kept.once

/-- A new export is noted and lies in the cell. -/
theorem exportNext (kept : Kept origin l es w) (f : NativeFunction) :
    Kept origin (l.issue (w.exportNext f)) (w.exportNext f :: es) (w.exportForCell f).2 := by
  have fresh : ∀ e ∈ l.issued, e.point ≠ (w.exportNext f).point :=
    fun e issued => kept.tallies.ne_exportFunction issued f
  have new : (w.exportNext f).point ∉ l.released := by
    intro released
    obtain ⟨e, issued, same⟩ := kept.tallies.known _ released
    exact fresh e issued same
  refine ⟨(kept.tallies.exportFunction f true).of_same rfl fun _ => id, kept.direct, ?_, ?_, ?_⟩
  · intro e
    rw [List.mem_cons, ← kept.held, Ledger.IsOpen, Ledger.IsOpen, Ledger.issue, List.mem_cons,
      or_and_right]
    refine or_congr_left ⟨And.left, fun same => ⟨same, ?_⟩⟩
    rw [same]
    exact new
  · intro e mem
    rcases List.mem_cons.mp mem with rfl | mem
    · exact List.mem_cons_self
    · exact List.mem_cons_of_mem _ (kept.noted e mem)
  · refine List.nodup_cons.mpr ⟨fun mem => ?_, kept.once⟩
    exact fresh _ ((kept.held _).mpr mem).1 rfl

/-- An export that is freed is released, and no other is. -/
theorem freeFirst (kept : Kept origin l (e :: es) w) :
    Kept origin (l.release e.point) es (w.releaseRecord e.record) := by
  -- No other export that is open has the address of this one, and it lies in the cell only once.  So neither
  -- the ledger nor the notes lose an export that is still there.
  have opened := (kept.held e).mpr List.mem_cons_self
  obtain ⟨elsewhere, once⟩ := List.nodup_cons.mp kept.once
  have noted := kept.noted e List.mem_cons_self
  rw [World.releaseRecord_noted (r := e.record) rfl noted]
  refine ⟨(kept.tallies.release opened).of_same rfl fun _ => id, kept.direct, ?_, ?_, once⟩
  · intro e'
    have before := kept.held e'
    rw [List.mem_cons] at before
    simp only [Ledger.IsOpen, Ledger.release, List.mem_cons, not_or]
    constructor
    · rintro ⟨issued', other, unreleased⟩
      exact (before.mp ⟨issued', unreleased⟩).resolve_left fun same => other (congrArg Issue.point same)
    · intro mem
      have opened' := before.mpr (.inr mem)
      refine ⟨opened'.1, fun same => elsewhere ?_, opened'.2⟩
      rwa [← kept.tallies.eq_of_address opened' opened (congrArg CallPoint.address same)]
  · intro e' mem
    have opened' := (kept.held e').mpr (List.mem_cons_of_mem _ mem)
    refine List.mem_filter.mpr ⟨kept.noted e' (List.mem_cons_of_mem _ mem), decide_eq_true ?_⟩
    intro same
    exact elsewhere (kept.tallies.eq_of_address opened' opened same.symm ▸ mem)

theorem free {gone : List Issue} (kept : Kept origin l (gone ++ es) w) :
    ∃ l', l'.issued = l.issued ∧ Kept origin l' es (w.releaseRecords (gone.map Issue.record)) := by
  induction gone generalizing l w with
  | nil => exact ⟨l, rfl, kept⟩
  | cons e gone ih =>
    obtain ⟨l', issued, later⟩ := ih kept.freeFirst
    exact ⟨l', issued, later⟩

/-- **The ledger follows** an operation. -/
theorem swapped (kept : Kept origin l es w) (swapped : Swapped w es es' w') :
    ∃ l', l.issued ⊆ l'.issued ∧ Kept origin l' es' w' := by
  -- The ledger does not look at the order, so those that go may stand in front.
  have order : ∀ front gone back : List Issue,
      (front ++ gone ++ back).Perm (gone ++ (front ++ back)) := by
    intro front gone back
    rw [← List.append_assoc]
    exact List.perm_append_comm.append_right back
  cases swapped with
  | freed front gone back =>
    obtain ⟨l', issued, later⟩ := (kept.perm (order front gone back)).free
    exact ⟨l', issued ▸ List.Subset.refl _, later⟩
  | exported front gone back f =>
    have behind : (w.exportNext f :: (front ++ gone ++ back)).Perm
        (gone ++ (front ++ w.exportNext f :: back)) := by
      refine ((order front gone back).cons _).trans ?_
      rw [← List.append_assoc, ← List.append_assoc]
      exact List.perm_middle.symm
    obtain ⟨l', issued, later⟩ := ((kept.exportNext f).perm behind).free
    exact ⟨l', issued ▸ List.subset_cons_self _ _, later⟩

end Kept

/-! ## 3. Runs -/

/-- A cell and the process. -/
structure CellState where
  cell : Cell
  world : World

namespace CellState

def step (st : CellState) (op : CellUse) : CellState :=
  let changed := op.change.apply st.cell st.world
  ⟨changed.cell, changed.world⟩

def run (st : CellState) (ops : List CellUse) : CellState := ops.foldl step st

/-- Some callable cell that can be reached holds the call point. -/
def Holds (st : CellState) (p : CallPoint) : Prop :=
  ∃ path here r, st.cell.descend? path = some here ∧ here.callable? = some r ∧ r.point = some p

end CellState

/-- What is stored after operations that begin in a state. -/
def Stored.afterAll (s : Stored) (st : CellState) : List CellUse → Stored
  | [] => s
  | op :: ops => (s.after op st.world).afterAll (st.step op) ops

/-- The state is that of a cell that was filled so, with its exports in the ledger. -/
structure CellState.Holding (st : CellState) (origin : World) (l : Ledger) (s : Stored) : Prop where
  cell : st.cell = s.cell
  kept : Kept origin l s.exports st.world

namespace CellState.Holding

variable {st : CellState} {origin : World} {l : Ledger} {s : Stored}

theorem step (holding : st.Holding origin l s) (op : CellUse) :
    ∃ l', l.issued ⊆ l'.issued ∧ (st.step op).Holding origin l' (s.after op st.world) := by
  have done := done_apply op s st.world
  rw [← holding.cell] at done
  obtain ⟨l', issued, kept⟩ := holding.kept.swapped done.swapped
  exact ⟨l', issued, done.cell_eq, kept⟩

theorem run (holding : st.Holding origin l s) (ops : List CellUse) :
    ∃ l', l.issued ⊆ l'.issued ∧ (st.run ops).Holding origin l' (s.afterAll st ops) := by
  induction ops generalizing st l s with
  | nil => exact ⟨l, List.Subset.refl _, holding⟩
  | cons op ops ih =>
    obtain ⟨l', issued, next⟩ := holding.step op
    obtain ⟨l'', issued', later⟩ := ih next
    exact ⟨l'', List.Subset.trans issued issued', later⟩

/-- The call points that the cell holds are those of the exports in it. -/
theorem holds_iff (holding : st.Holding origin l s) (p : CallPoint) :
    st.Holds p ↔ ∃ e ∈ s.exports, e.point = p := by
  constructor
  · rintro ⟨path, here, r, found, read, point⟩
    rw [holding.cell, s.descend?_cell] at found
    obtain ⟨inner, leads, rfl⟩ := Option.map_eq_some_iff.mp found
    rw [inner.shows_cell.callable?] at read
    obtain ⟨e, here, rfl⟩ := Option.map_eq_some_iff.mp read
    cases inner with
    | callable e' =>
      obtain rfl : e' = e := Option.some.inj here
      exact ⟨e', (s.mem_exports_iff e').mpr ⟨path, leads⟩, Option.some.inj point⟩
    | _ => cases here
  · rintro ⟨e, mem, rfl⟩
    obtain ⟨path, found⟩ := (s.mem_exports_iff e).mp mem
    refine ⟨path, _, e.record, ?_, (Stored.callable e).shows_cell.callable?, rfl⟩
    rw [holding.cell, s.descend?_cell, found]
    rfl

/-- **The table** holds what it held at the start, and the functions of the exports in the cell. -/
theorem entries_iff (holding : st.Holding origin l s) (id : Nat) (o : Object) :
    (id, o) ∈ st.world.objects.entries ↔ (id, o) ∈ origin.objects.entries ∨
      ∃ path e, s.descend? path = some (.callable e) ∧ e.point.handle? = some id ∧
        o = .ofFunction e.function := by
  rw [holding.kept.tallies.entries, holding.kept.direct, or_comm]
  refine or_congr_right ?_
  simp only [holding.kept.held, s.mem_exports_iff]
  constructor
  · rintro ⟨e, ⟨path, found⟩, handle, function⟩
    exact ⟨path, e, found, handle, function⟩
  · rintro ⟨path, e, found, handle, function⟩
    exact ⟨e, ⟨path, found⟩, handle, function⟩

/-- **An export is registered while the cell holds it**, and gone when it holds it no longer. -/
theorem registered (holding : st.Holding origin l s) {e : Issue} (issued : e ∈ l.issued) :
    (st.Holds e.point → st.world.functionAt? e.point = some e.function) ∧
      (¬ st.Holds e.point → st.world.functionAt? e.point = none) := by
  have tallies := holding.kept.tallies
  rw [holding.holds_iff]
  constructor
  · rintro ⟨e', mem, same⟩
    have opened := (holding.kept.held e').mpr mem
    obtain rfl := tallies.apart e' opened.1 e issued (congrArg CallPoint.handle? same)
    exact tallies.functionAt?_of_open opened
  · intro gone
    by_cases released : e.point ∈ l.released
    · exact tallies.functionAt?_of_released issued released
    · exact absurd ⟨e, (holding.kept.held e).mp ⟨issued, released⟩, rfl⟩ gone

end CellState.Holding

namespace CellState

theorem run_append (st : CellState) (uses later : List CellUse) :
    st.run (uses ++ later) = (st.run uses).run later :=
  List.foldl_append

theorem holding_start (w : World) :
    (⟨.null, w⟩ : CellState).Holding w ⟨[], [], w.objects.entries⟩ .nothing :=
  ⟨rfl, .start w⟩

end CellState

/-- Where something is stored, a cell shows it. -/
theorem Stored.exists_shows {stored? : Option Stored} {c? : Option Cell}
    (same : Option.Rel Shows stored? c?) {s : Stored} (here : stored? = some s) :
    ∃ c, c? = some c ∧ s.Shows c := by
  cases same with
  | some shown =>
    obtain rfl := Option.some.inj here
    exact ⟨_, rfl, shown⟩
  | none => cases here

theorem Stored.afterAll_append (s : Stored) (st : CellState) (uses later : List CellUse) :
    s.afterAll st (uses ++ later) = (s.afterAll st uses).afterAll (st.run uses) later := by
  induction uses generalizing s st with
  | nil => rfl
  | cons use uses ih => exact ih _ _

/-- **The life of a cell.**  Whatever is done to a cell that was null, and to the elements of the arrays
in it: every cell in it gives what was stored there last to the readers of its kind, gives nothing to the
others, and owns what it points to just when its tag says so.  What is done next is taken or refused as
what is stored says, and a freed cell is null again.  The objects table holds what it held before and the
functions of the exports in the cell, and an export that was ever in the cell leads to its function while
the cell holds it, and to nothing from then on. -/
theorem cell_life (w : World) (uses : List CellUse) :
    let origin : CellState := ⟨.null, w⟩
    let now := origin.run uses
    let stored := Stored.nothing.afterAll origin uses
    (∀ path, Option.Rel Stored.Shows (stored.descend? path) (now.cell.descend? path)) ∧
    (∀ use : CellUse,
      (use.change.apply now.cell now.world).outcome.isOk = (use.store? now.world stored).isSome) ∧
    (origin.run (uses ++ [.free])).cell = .null ∧
    (∀ id o, (id, o) ∈ now.world.objects.entries ↔ (id, o) ∈ w.objects.entries ∨
      ∃ path e, stored.descend? path = some (.callable e) ∧ e.point.handle? = some id ∧
        o = .ofFunction e.function) ∧
    ∀ earlier later, uses = earlier ++ later → ∀ path e,
      (Stored.nothing.afterAll origin earlier).descend? path = some (.callable e) →
        (now.Holds e.point → now.world.functionAt? e.point = some e.function) ∧
        (¬ now.Holds e.point → now.world.functionAt? e.point = none) := by
  intro origin now stored
  obtain ⟨l, -, holding⟩ := (CellState.holding_start w).run uses
  refine ⟨fun path => ?_, fun use => ?_, ?_, holding.entries_iff, ?_⟩
  · rw [holding.cell, Stored.descend?_cell]
    cases stored.descend? path with
    | none => exact .none
    | some inner => exact .some inner.shows_cell
  · rw [holding.cell]
    exact (done_apply use stored now.world).isOk_outcome
  · rw [CellState.run_append]
    rfl
  · rintro earlier later rfl path e found
    obtain ⟨before, -, early⟩ := (CellState.holding_start w).run earlier
    obtain ⟨after, issued, late⟩ := early.run later
    rw [← CellState.run_append, ← Stored.afterAll_append] at late
    -- What lay in the cell was issued, and the ledger forgets no issue.
    have made := ((early.kept.held e).mpr ((Stored.mem_exports_iff _ e).mpr ⟨path, found⟩)).1
    exact late.registered (issued made)

def ping : NativeFunction := ⟨0, "ping", [], []⟩

/-- An array with a function and a text; a text with NUL does not take the place of that. -/
def filledArray : List CellUse :=
  [.setArray .any 2 1, .item 0 (.setCallable ping), .item 1 (.setText .w8 "a"),
    .item 1 (.setText .w8 "a\x00b")]

theorem cell_life_filledArray :
    let origin : CellState := ⟨.null, {}⟩
    let full := origin.run filledArray
    let emptied := origin.run (filledArray ++ [.free])
    let e := (origin.run [.setArray .any 2 1]).world.exportNext ping
    (∃ here, full.cell.descend? [1] = some here ∧ here.text? = some "a") ∧
      full.Holds e.point ∧ full.world.functionAt? e.point = some ping ∧
      emptied.cell = .null ∧ ¬ emptied.Holds e.point ∧ emptied.world.functionAt? e.point = none := by
  intro origin full emptied e
  have text : (Stored.nothing.afterAll origin filledArray).descend? [1] = some (.text .w8 "a" rfl) := rfl
  have made : (Stored.nothing.afterAll origin filledArray).descend? [0] = some (.callable e) := rfl
  obtain ⟨shows, -, freed, -, lasting⟩ := cell_life {} filledArray
  obtain ⟨-, -, -, -, ending⟩ := cell_life {} (filledArray ++ [.free])
  obtain ⟨first, found, shown⟩ := Stored.exists_shows (shows [0]) made
  obtain ⟨second, foundText, shownText⟩ := Stored.exists_shows (shows [1]) text
  have holds : full.Holds e.point := ⟨[0], first, e.record, found, shown.callable?, rfl⟩
  have empty : ¬ emptied.Holds e.point := by
    rintro ⟨path, inner, r, found, read, -⟩
    rw [freed] at found
    cases path with
    | nil =>
      obtain rfl := Option.some.inj found
      cases read
    | cons => cases found
  exact ⟨⟨second, foundText, shownText.text?⟩, holds, (lasting filledArray [] rfl [0] e made).1 holds,
    freed, empty, (ending filledArray [.free] rfl [0] e made).2 empty⟩

end RuntimeBridge
