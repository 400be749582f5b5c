/-
# Exports are isolated from one another and from the registry

A process registers functions by name and takes them out again, and exports them in several ways: for an
entity that is loaded, for a function that is wrapped, directly, and for callable cells, which own what
was made for them.  Cells may also carry call points that others made.  All exports share the objects
table.

A cell that carries a call point has its address alone, and the call point may be released meanwhile and
its address given to another export.  If that one belongs to a cell, its address is noted, and freeing
the first cell releases it (`exports_not_isolated`).  As long as no cell is freed that carries a noted
address without owning what lies there, an open call point leads to the function it was made for, a
released one to nothing, and the table holds nothing beyond the open exports and what was registered
directly, whatever happens in whatever order and wherever call points are placed.

The state is kept with a ledger.  An operation on the table tallies by itself; what needs an argument is
freeing a cell, which must release what was made for it, and nothing else (`Orderly.replace`).  Each step
keeps the state orderly (`Orderly.step`), so every run does.

Main statement: `exports_isolated`.
-/
import RuntimeBridge.Cell.Change
import RuntimeBridge.Host.Basic
import RuntimeBridge.Proofs.World.Ledger
import RuntimeBridge.Proofs.Wire.Marks
import Mathlib.Logic.Function.Basic
namespace RuntimeBridge

/-! ## 1. Operations -/

/-- A process with cells, and what is noted of its exports beside it. -/
structure Exporting where
  host : Host
  cells : Nat → Cell := fun _ => .null
  /-- The call point that was made for each cell. -/
  made : Nat → Option CallPoint := fun _ => none
  ledger : Ledger

inductive ExportOp where
  | register (module : String) (f : NativeFunction)
  | unregister (module name : String)
  /-- Register an object in the objects table. -/
  | registerObject (o : Object)
  /-- Release an id of the objects table. -/
  | releaseObject (id : Nat)
  | loadEntity (module path : String) (params retvals : List TypeInfo)
  | makeCallable (id : Nat) (params retvals : List TypeInfo)
  | exportFunction (f : NativeFunction)
  /-- Release a call point, through the plugin of the process or directly. -/
  | release (p : Option CallPoint)
  /-- Construct a callable in a cell. -/
  | fill (k : Nat) (c : Callable)
  /-- Free a cell. -/
  | free (k : Nat)

namespace Exporting

/-- A process whose cells are null; whatever its table holds was registered directly. -/
def start (h : Host) : Exporting where
  host := h
  ledger := ⟨[], [], h.world.objects.entries⟩

/-- The state of the process changes. -/
def withWorld (s : Exporting) (w : World) : Exporting :=
  { s with host := { s.host with world := w } }

/-- What came of exporting a function that was looked up: a call point is entered in the ledger with the
function that was found. -/
def answered (s : Exporting) (found : Except BridgeError NativeFunction)
    (answer : Except BridgeError (Option CallPoint) × Host) : Exporting :=
  { s with
    host := answer.2
    ledger :=
      match found, answer.1 with
      | .ok f, .ok (some p) => s.ledger.issue ⟨p, f, false⟩
      | _, _ => s.ledger }

/-- The export that was made when a callable was put into a cell. -/
def newIssue? (c : Callable) (cell : Cell) : Option Issue :=
  match c with
  | .native f => (cell.callable?.bind CallableRecord.point).map fun p => ⟨p, f, true⟩
  | .foreign _ => none

/-- Construct a callable in cell `k`; what was made for the cell before is released, unless the callable
is refused. -/
def fill (s : Exporting) (k : Nat) (c : Callable) : Exporting :=
  let r := (CellChange.setCallable c).apply (s.cells k) s.host.world
  match r.outcome with
  | .error _ => s.withWorld r.world
  | .ok () =>
    { host := { s.host with world := r.world }
      cells := Function.update s.cells k r.cell
      made := Function.update s.made k ((newIssue? c r.cell).map Issue.point)
      ledger := (s.ledger.issue? (newIssue? c r.cell)).release? (s.made k) }

/-- Free cell `k`, and with it what was made for it. -/
def vacate (s : Exporting) (k : Nat) : Exporting :=
  let r := CellChange.free.apply (s.cells k) s.host.world
  { host := { s.host with world := r.world }
    cells := Function.update s.cells k r.cell
    made := Function.update s.made k none
    ledger := s.ledger.release? (s.made k) }

def step (s : Exporting) : ExportOp → Exporting
  | .register module f =>
    { s with host := { s.host with runtime := s.host.runtime.register module f } }
  | .unregister module name =>
    { s with host := { s.host with runtime := (s.host.runtime.unregister module name).2 } }
  | .registerObject o =>
    let (id, w) := s.host.world.registerObject o
    { s.withWorld w with ledger := s.ledger.enter id o }
  | .releaseObject id =>
    { s.withWorld (s.host.world.releaseObject id).2 with ledger := s.ledger.strike id }
  | .loadEntity module path params retvals =>
    s.answered (s.host.runtime.resolve s.host.environment module path params retvals)
      (s.host.loadEntity module path params retvals)
  | .makeCallable id params retvals =>
    s.answered (s.host.world.registeredFunction id) (s.host.makeCallable id params retvals)
  | .exportFunction f => s.answered (.ok f) (s.host.exportFound (.ok f))
  | .release p => { s with host := (s.host.release p).2, ledger := s.ledger.release? p }
  | .fill k c => s.fill k c
  | .free k => s.vacate k

def run (s : Exporting) (ops : List ExportOp) : Exporting := ops.foldl step s

/-- Another cell in place of cell `k`, with what was made for it. -/
def replace (s : Exporting) (k : Nat) (c : Cell) (made? : Option CallPoint) : Exporting :=
  { s.withWorld (s.host.world.freeCell (s.cells k)) with
    cells := Function.update s.cells k c
    made := Function.update s.made k made?
    ledger := s.ledger.release? (s.made k) }

/-- The state in which an operation frees a cell: a function is exported before that. -/
def opening (s : Exporting) : ExportOp → Exporting
  | .fill _ (.native f) =>
    { s.withWorld (s.host.world.exportForCell f).2 with
      ledger := s.ledger.issue ⟨(s.host.world.exportForCell f).1, f, true⟩ }
  | _ => s

/-! ## 2. What may be done -/

/-- What was made for the cell was not released by its call point. -/
def MayVacate (s : Exporting) (k : Nat) : Prop :=
  ∀ p ∈ s.made k, p ∉ s.ledger.released

/-- Call points are released once, no id of an open export is released directly, and what cells carry
without owning it was made for no cell. -/
def Allowed (s : Exporting) : ExportOp → Prop
  | .releaseObject id => ∀ e ∈ s.ledger.issued, e.point ∉ s.ledger.released →
    e.point.handle? ≠ some id
  | .release (some p) => ∃ e ∈ s.ledger.issued, e.point = p ∧ p ∉ s.ledger.released
  | .fill k (.native f) => (Callable.native f).isShort = true → s.MayVacate k
  | .fill k (.foreign c) => (∃ e ∈ s.ledger.issued, e.point = c.point ∧ e.forCell = false) ∧
    ((Callable.foreign c).isShort = true → s.MayVacate k)
  | .free k => s.MayVacate k
  | _ => True

def AllowedRun (s : Exporting) : List ExportOp → Prop
  | [] => True
  | op :: ops => s.Allowed op ∧ (s.step op).AllowedRun ops

/-- The cell whose content an operation frees. -/
def vacated? : ExportOp → Option Nat
  | .free k => some k
  | .fill k c => if c.isShort then some k else none
  | _ => none

/-- Cell `k` carries a noted address, and not that of what was made for it. -/
def CarriesOther (s : Exporting) (k : Nat) : Prop :=
  ∃ r ∈ (s.cells k).ownedRecords, ∃ p ∈ r.point, p.address ∈ s.host.world.cellExports ∧ p ∉ s.made k

/-- An operation frees a cell that carries an address noted for another one. -/
def Robs (s : Exporting) (op : ExportOp) : Prop :=
  ∃ k ∈ vacated? op, (s.opening op).CarriesOther k

instance (s : Exporting) (k : Nat) : Decidable (s.MayVacate k) :=
  inferInstanceAs (Decidable (∀ p ∈ s.made k, p ∉ s.ledger.released))

instance (s : Exporting) : (op : ExportOp) → Decidable (s.Allowed op)
  | .releaseObject id => inferInstanceAs (Decidable (∀ e ∈ s.ledger.issued,
    e.point ∉ s.ledger.released → e.point.handle? ≠ some id))
  | .release (some p) => inferInstanceAs (Decidable (∃ e ∈ s.ledger.issued,
    e.point = p ∧ p ∉ s.ledger.released))
  | .fill k (.native f) => inferInstanceAs (Decidable
    ((Callable.native f).isShort = true → s.MayVacate k))
  | .fill k (.foreign c) => inferInstanceAs (Decidable
    ((∃ e ∈ s.ledger.issued, e.point = c.point ∧ e.forCell = false) ∧
      ((Callable.foreign c).isShort = true → s.MayVacate k)))
  | .free k => inferInstanceAs (Decidable (s.MayVacate k))
  | .register _ _ | .unregister _ _ | .registerObject _ | .loadEntity _ _ _ _
  | .makeCallable _ _ _ | .exportFunction _ | .release none => .isTrue trivial

instance decideRun : (s : Exporting) → (ops : List ExportOp) → Decidable (s.AllowedRun ops)
  | _, [] => inferInstanceAs (Decidable True)
  | s, op :: ops => @instDecidableAnd _ _ inferInstance (decideRun (s.step op) ops)

instance (s : Exporting) (k : Nat) : Decidable (s.CarriesOther k) :=
  inferInstanceAs (Decidable (∃ r ∈ (s.cells k).ownedRecords, ∃ p ∈ r.point,
    p.address ∈ s.host.world.cellExports ∧ p ∉ s.made k))

instance (s : Exporting) (op : ExportOp) : Decidable (s.Robs op) :=
  inferInstanceAs (Decidable (∃ k ∈ vacated? op, (s.opening op).CarriesOther k))

/-! ## 3. Orderly states -/

structure Orderly (s : Exporting) : Prop where
  tallies : s.ledger.Tallies s.host.world
  /-- What was made for a cell is all that the cell carries, and it is noted until it is released. -/
  own : ∀ k p, s.made k = some p → (∃ e ∈ s.ledger.issued, e.point = p) ∧
    (p ∉ s.ledger.released → p.address ∈ s.host.world.cellExports) ∧
    ∃ r, (s.cells k).ownedRecords = [r] ∧ r.point = some p

namespace Orderly

variable {s : Exporting}

theorem start (h : Host) : (Exporting.start h).Orderly where
  tallies := .of_table h.world
  own := by simp [Exporting.start]

/-- Steps that forget no export, no release and no note. -/
theorem of_tallies (orderly : s.Orderly) {h : Host} {l : Ledger} (tallies : l.Tallies h.world)
    (issued : ∀ e ∈ s.ledger.issued, e ∈ l.issued)
    (released : ∀ p ∈ s.ledger.released, p ∈ l.released)
    (exports : ∀ a ∈ s.host.world.cellExports, a ∈ h.world.cellExports) :
    Orderly { s with host := h, ledger := l } where
  tallies := tallies
  own := by
    intro k p made
    obtain ⟨⟨e, mem, same⟩, noted, carries⟩ := orderly.own k p made
    exact ⟨⟨e, issued e mem, same⟩, fun unreleased => exports _ (noted (unreleased ∘ released p)),
      carries⟩

theorem exportFound (orderly : s.Orderly) (found : Except BridgeError NativeFunction) :
    (s.answered found (s.host.exportFound found)).Orderly := by
  cases found with
  | error e => exact orderly
  | ok f =>
    exact orderly.of_tallies (orderly.tallies.exportFunction f false)
      (fun _ => List.mem_cons_of_mem _) (fun _ => id) (fun _ => id)

/-- What is exported for a cell is noted before the cell is freed. -/
theorem opening (orderly : s.Orderly) (op : ExportOp) : (s.opening op).Orderly := by
  cases op with
  | fill k c =>
    cases c with
    | native f =>
      have tallies : (s.opening (.fill k (.native f))).ledger.Tallies
          (s.host.world.exportForCell f).2 :=
        (orderly.tallies.exportFunction f true).of_same rfl fun _ => id
      exact orderly.of_tallies tallies (fun _ => List.mem_cons_of_mem _) (fun _ => id)
        (fun _ => List.mem_cons_of_mem _)
    | foreign c => exact orderly
  | _ => exact orderly

/-! ## 4. Cells -/

/-- Another cell in place of cell `k`, with what was made for it. -/
theorem put (orderly : s.Orderly) (k : Nat) (c : Cell) (made? : Option CallPoint)
    (own : ∀ p, made? = some p → (∃ e ∈ s.ledger.issued, e.point = p) ∧
      (p ∉ s.ledger.released → p.address ∈ s.host.world.cellExports) ∧
      ∃ r, c.ownedRecords = [r] ∧ r.point = some p) :
    Orderly { s with
      cells := Function.update s.cells k c
      made := Function.update s.made k made? } where
  tallies := orderly.tallies
  own := by
    intro j p made
    simp only [Function.update_apply] at made ⊢
    split at made
    next here =>
      rw [if_pos here]
      exact own p made
    next elsewhere =>
      rw [if_neg elsewhere]
      exact orderly.own j p made

/-- An open export is released, and noted no longer. -/
theorem discharge (orderly : s.Orderly) {e : Issue} (opened : s.ledger.IsOpen e) :
    Orderly { s.withWorld { s.host.world with
        objects := s.host.world.objects.dropping (s.host.world.pointAt e.point).handle?
        points := s.host.world.pointsBeyond (s.host.world.clearedBy? e.point)
        cellExports := s.host.world.cellExports.filter fun a => decide (e.point.address ≠ a) } with
      ledger := s.ledger.release e.point } where
  tallies := (orderly.tallies.release opened).of_same rfl fun _ => id
  own := by
    intro k p made
    obtain ⟨⟨e', mem, rfl⟩, noted, carries⟩ := orderly.own k p made
    refine ⟨⟨e', mem, rfl⟩, fun unreleased => ?_, carries⟩
    obtain ⟨other, unreleased⟩ := not_or.mp ((not_congr List.mem_cons).mp unreleased)
    refine List.mem_filter.mpr ⟨noted unreleased, decide_eq_true fun address => ?_⟩
    rw [orderly.tallies.eq_of_address opened ⟨mem, unreleased⟩ address] at other
    exact other rfl

/-- A cell that carries nothing of others, and that nothing was made for, is freed without effect. -/
theorem freeCell_lent {k : Nat} (spares : ¬ s.CarriesOther k) (nothing : s.made k = none) :
    s.host.world.freeCell (s.cells k) = s.host.world := by
  refine World.releaseRecords_unnoted fun r mem a here noted => ?_
  obtain ⟨p, point, rfl⟩ := Option.map_eq_some_iff.mp here
  exact spares ⟨r, mem, p, point, noted, by simp [nothing]⟩

/-- **Replacing a cell** releases what was made for it, and nothing else. -/
theorem replace (orderly : s.Orderly) {k : Nat} (may : s.MayVacate k) (spares : ¬ s.CarriesOther k)
    (c : Cell) (made? : Option CallPoint)
    (own : ∀ p, made? = some p → (∃ e ∈ s.ledger.issued, e.point = p) ∧
      (p ∉ s.ledger.released → p.address ∈ s.host.world.cellExports) ∧
      ∃ r, c.ownedRecords = [r] ∧ r.point = some p) :
    (s.replace k c made?).Orderly := by
  have there := orderly.put k c made? own
  rw [Exporting.replace]
  cases made : s.made k with
  | none =>
    rw [freeCell_lent spares made]
    exact there
  | some p =>
    have unreleased := may p made
    obtain ⟨⟨e, issued, rfl⟩, noted, r, records, point⟩ := orderly.own k p made
    have freed : s.host.world.freeCell (s.cells k) = s.host.world.releaseRecord r := by
      rw [World.freeCell, records]
      rfl
    rw [freed, World.releaseRecord_noted point (noted unreleased)]
    exact there.discharge ⟨issued, unreleased⟩

end Orderly

/-- **A step that frees a cell** puts another one in its place: nothing was made for it, or what was
exported just before. -/
theorem step_of_vacated {s : Exporting} {op : ExportOp} {k : Nat} (frees : vacated? op = some k) :
    (∃ c, s.step op = (s.opening op).replace k c none) ∨
      ∃ f, op = .fill k (.native f) ∧
        s.step op = (s.opening op).replace k (.ofCallable (exportedRecord f s.host.world))
          (some (s.host.world.exportForCell f).1) := by
  cases op with
  | free j =>
    obtain rfl : j = k := Option.some.inj frees
    exact .inl ⟨.null, rfl⟩
  | fill j c =>
    obtain ⟨short, rfl⟩ : c.isShort = true ∧ j = k := by simpa [vacated?] using frees
    cases c with
    | native f =>
      refine .inr ⟨f, rfl, ?_⟩
      simp only [Exporting.step, Exporting.fill, CellChange.apply,
        toRecord_native_of_short short s.host.world]
      rfl
    | foreign c =>
      refine .inl ⟨.ofCallable c.record, ?_⟩
      simp only [Exporting.step, Exporting.fill, CellChange.apply,
        toRecord_foreign_of_short short s.host.world]
      rfl
  | _ => cases frees

/-- A callable that is refused changes nothing. -/
theorem fill_of_long {c : Callable} (long : c.isShort = false) (s : Exporting) (k : Nat) :
    s.fill k c = s := by
  obtain ⟨e, refused⟩ := toRecord_of_long long s.host.world
  simp only [Exporting.fill, CellChange.apply, refused, withWorld]

namespace Orderly

variable {s : Exporting}

/-- **A step that frees a cell** keeps the state orderly, unless the cell carries what was made for
another one. -/
theorem step_vacating (orderly : s.Orderly) {op : ExportOp} {k : Nat} (frees : vacated? op = some k)
    (may : s.MayVacate k) (spares : ¬ (s.opening op).CarriesOther k) : (s.step op).Orderly := by
  have opened := orderly.opening op
  rcases step_of_vacated (s := s) frees with ⟨c, same⟩ | ⟨f, rfl, same⟩ <;> rw [same]
  · refine opened.replace ?_ spares c none nofun
    cases op with
    | fill j c => cases c <;> exact may
    | _ => exact may
  · refine opened.replace may spares _ _ ?_
    rintro p ⟨⟩
    exact ⟨⟨_, List.mem_cons_self, rfl⟩, fun _ => List.mem_cons_self, _, ownedRecords_ofCallable _,
      rfl⟩

/-! ## 5. Steps and runs -/

/-- A function that is exported after its signature was checked is the one that was found. -/
theorem answered_checked (found : Except BridgeError NativeFunction) (params retvals : List TypeInfo) :
    s.answered found (s.host.exportFound (found.bind fun f => f.checkSignature params retvals)) =
      s.answered (found.bind fun f => f.checkSignature params retvals)
        (s.host.exportFound (found.bind fun f => f.checkSignature params retvals)) := by
  cases found with
  | error e => rfl
  | ok f =>
    simp only [Except.bind, NativeFunction.checkSignature]
    split <;> rfl

/-- Steps that free no cell keep the state orderly. -/
theorem step_other (orderly : s.Orderly) {op : ExportOp} (nothing : vacated? op = none)
    (release : ∀ p, op = .release (some p) → ∃ e, s.ledger.IsOpen e ∧ e.point = p)
    (direct : ∀ id, op = .releaseObject id → ∀ e, s.ledger.IsOpen e → e.point.handle? ≠ some id) :
    (s.step op).Orderly := by
  cases op with
  | register module f =>
    exact orderly.of_tallies orderly.tallies (fun _ => id) (fun _ => id) (fun _ => id)
  | unregister module name =>
    exact orderly.of_tallies orderly.tallies (fun _ => id) (fun _ => id) (fun _ => id)
  | registerObject o =>
    exact orderly.of_tallies (orderly.tallies.registerObject o) (fun _ => id) (fun _ => id)
      (fun _ => id)
  | releaseObject id =>
    have tallies := orderly.tallies.releaseObject (direct id rfl)
    have exports : (s.host.world.releaseObject id).2.cellExports = s.host.world.cellExports := by
      rw [World.releaseObject_eq]
    exact orderly.of_tallies tallies (fun _ mem => mem) (fun _ mem => mem)
      (fun _ noted => exports ▸ noted)
  | loadEntity module path params retvals => exact orderly.exportFound _
  | makeCallable id params retvals =>
    have checked := answered_checked (s := s) (s.host.world.registeredFunction id) params retvals
    show (s.answered _ (s.host.exportFound _)).Orderly
    rw [checked]
    exact orderly.exportFound _
  | exportFunction f => exact orderly.exportFound (.ok f)
  | release p =>
    cases p with
    | none => exact orderly
    | some p =>
      obtain ⟨e, opened, rfl⟩ := release p rfl
      have released : (s.host.release (some e.point)).2 = _ :=
        congrArg (fun w => { s.host with world := w }) (s.host.world.releaseExport_eq e.point)
      show Orderly { s with
        host := (s.host.release (some e.point)).2, ledger := s.ledger.release e.point }
      rw [released]
      exact orderly.of_tallies (orderly.tallies.release opened) (fun _ => id)
        (fun _ => List.mem_cons_of_mem _) (fun _ => id)
  | fill k c =>
    have long : c.isShort = false := by simpa [vacated?] using nothing
    have same : s.step (.fill k c) = s := fill_of_long long s k
    rw [same]
    exact orderly
  | free k => cases nothing

/-- **One step** that robs no cell keeps the state orderly. -/
theorem step (orderly : s.Orderly) {op : ExportOp} (allowed : s.Allowed op) (spares : ¬ s.Robs op) :
    (s.step op).Orderly := by
  cases frees : vacated? op with
  | none =>
    refine orderly.step_other frees ?_ ?_
    · rintro p rfl
      obtain ⟨e, issued, rfl, unreleased⟩ := allowed
      exact ⟨e, ⟨issued, unreleased⟩, rfl⟩
    · rintro id rfl e opened
      exact allowed e opened.1 opened.2
  | some k =>
    refine orderly.step_vacating frees ?_ fun carries => spares ⟨k, frees, carries⟩
    cases op with
    | free j =>
      obtain rfl : j = k := Option.some.inj frees
      exact allowed
    | fill j c =>
      obtain ⟨short, rfl⟩ : c.isShort = true ∧ j = k := by simpa [vacated?] using frees
      cases c with
      | native f => exact allowed short
      | foreign c => exact allowed.2 short
    | _ => cases frees

theorem run (orderly : s.Orderly) {ops : List ExportOp} (allowed : s.AllowedRun ops)
    (spares : ∀ n (h : n < ops.length), ¬ (s.run (ops.take n)).Robs ops[n]) :
    (s.run ops).Orderly := by
  induction ops generalizing s with
  | nil => exact orderly
  | cons op ops ih =>
    have first : ¬ s.Robs op := spares 0 (Nat.succ_pos _)
    exact ih (orderly.step allowed.1 first) allowed.2
      fun n h => spares (n + 1) (Nat.succ_lt_succ h)

end Orderly

end Exporting

/-- **Exports are isolated** from one another and from the registry, in every run that releases a call
point once at most and no id of an open export directly, and that frees no cell while it carries a noted
address without owning what lies there.  A call point that was not released lies in memory and leads to
the function it was made for; one that was released leaves nothing in the objects table; and the table
holds the open exports, what was registered directly, and nothing else. -/
theorem exports_isolated (h : Host) (ops : List ExportOp)
    (allowed : (Exporting.start h).AllowedRun ops)
    (spares : ∀ n (h' : n < ops.length), ¬ ((Exporting.start h).run (ops.take n)).Robs ops[n]) :
    let s := (Exporting.start h).run ops
    (∀ e ∈ s.ledger.issued, e.point ∉ s.ledger.released →
      s.host.world.Holds e.point ∧ s.host.world.functionAt? e.point = some e.function) ∧
    (∀ e ∈ s.ledger.issued, e.point ∈ s.ledger.released → ∃ id, e.point.handle? = some id ∧
      ∀ o, (id, o) ∉ s.host.world.objects.entries) ∧
    ∀ id o, (id, o) ∈ s.host.world.objects.entries ↔
      (∃ e ∈ s.ledger.issued, e.point ∉ s.ledger.released ∧ e.point.handle? = some id ∧
        o = .ofFunction e.function) ∨ (id, o) ∈ s.ledger.direct := by
  intro s
  have tallies := ((Exporting.Orderly.start h).run allowed spares).tallies
  refine ⟨fun e issued unreleased => ?_, ?_, ?_⟩
  · exact ⟨tallies.lies e ⟨issued, unreleased⟩, tallies.functionAt?_of_open ⟨issued, unreleased⟩⟩
  · intro e issued released
    obtain ⟨id, handle, -⟩ := tallies.made e issued
    exact ⟨id, handle, tallies.absent_of_released issued released handle⟩
  · intro id o
    rw [tallies.entries]
    refine or_congr_left ⟨?_, ?_⟩
    · rintro ⟨e, ⟨issued, unreleased⟩, handle, rfl⟩
      exact ⟨e, issued, unreleased, handle, rfl⟩
    · rintro ⟨e, issued, unreleased, handle, rfl⟩
      exact ⟨e, ⟨issued, unreleased⟩, handle, rfl⟩

/-- A function, and another one that takes its name. -/
def incumbent : NativeFunction := ⟨0, "f", [], []⟩

def successor : NativeFunction := ⟨1, "f", [], []⟩

/-- The call point at an address of a function of no parameters and no results under an id. -/
def plainPoint (address id : Nat) : CallPoint :=
  ⟨address, .exported .noParamsNoRet ⟨id, 0, 0⟩⟩

/-- Both functions are exported in every way, in between the name changes hands, and some of the exports
are released: one by its call point, one by its cell. -/
def exportOps : List ExportOp :=
  [.register "m" incumbent, .loadEntity "m" "f" [] [], .register "m" successor,
    .exportFunction incumbent, .fill 0 (.native incumbent),
    .fill 1 (.foreign ⟨plainPoint 1 2, [], []⟩), .registerObject (.ofFunction successor),
    .makeCallable 4 [] [], .fill 0 (.native successor), .release (some (plainPoint 0 1)),
    .unregister "m" "f", .free 1, .releaseObject 4]

theorem exports_isolated_exportOps :
    let w := ((Exporting.start {}).run exportOps).host.world
    w.functionAt? (plainPoint 1 2) = some incumbent ∧
      w.functionAt? (plainPoint 3 5) = some successor ∧
      w.functionAt? (plainPoint 4 6) = some successor ∧
      ∀ o, (1, o) ∉ w.objects.entries ∧ (3, o) ∉ w.objects.entries ∧ (4, o) ∉ w.objects.entries := by
  obtain ⟨opened, released, table⟩ := exports_isolated {} exportOps (by decide +kernel)
    (by decide +kernel)
  obtain ⟨id, ⟨⟩, byPoint⟩ := released ⟨plainPoint 0 1, incumbent, false⟩ (by decide +kernel) (by decide +kernel)
  obtain ⟨id, ⟨⟩, byCell⟩ := released ⟨plainPoint 2 3, incumbent, true⟩ (by decide +kernel) (by decide +kernel)
  refine ⟨(opened ⟨plainPoint 1 2, incumbent, false⟩ (by decide +kernel) (by decide +kernel)).2,
    (opened ⟨plainPoint 3 5, successor, false⟩ (by decide +kernel) (by decide +kernel)).2,
    (opened ⟨plainPoint 4 6, successor, true⟩ (by decide +kernel) (by decide +kernel)).2,
    fun o => ⟨byPoint o, byCell o, fun entry => ?_⟩⟩
  rcases (table 4 o).mp entry with ⟨e, issued, -, handle, -⟩ | direct
  · have ids : ∀ e ∈ ((Exporting.start {}).run exportOps).ledger.issued,
        e.point.handle? ≠ some 4 := by decide +kernel
    exact ids e issued handle
  · have none_left : ((Exporting.start {}).run exportOps).ledger.direct.isEmpty = true := by
      decide +kernel
    rw [List.isEmpty_iff.mp none_left] at direct
    exact absurd direct List.not_mem_nil

/-- A process that places call points as soon as there is room. -/
def stackingHost : Host where
  world := { allocator := .stacking }

/-- A call point is released while a cell carries it, another cell gets an export at its address, and the
first cell is freed. -/
def reusingOps : List ExportOp :=
  [.exportFunction incumbent, .fill 0 (.foreign ⟨plainPoint 0 1, [], []⟩),
    .release (some (plainPoint 0 1)), .fill 1 (.native successor), .free 0]

/-- **An address that is given again** may be that of what was made for a cell, and freeing a cell that
carries the address from before takes the function from there. -/
theorem exports_not_isolated :
    ¬ ∀ (h : Host) (ops : List ExportOp), (Exporting.start h).AllowedRun ops →
      let s := (Exporting.start h).run ops
      ∀ e ∈ s.ledger.issued, e.point ∉ s.ledger.released →
        s.host.world.functionAt? e.point = some e.function := by
  intro always
  have leads := always stackingHost reusingOps (by decide +kernel) ⟨plainPoint 0 2, successor, true⟩
    (by decide +kernel) (by decide +kernel)
  exact absurd leads (by decide +kernel)

end RuntimeBridge
