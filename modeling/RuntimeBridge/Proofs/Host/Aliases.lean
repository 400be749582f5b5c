/-
# Cells that carry the call point of another cell

What was made for a callable cell goes with that cell.  But the call point of a cell may be read
from its record and put into another cell, as a runtime does that passes on a callable that it was
given, and freeing asks for the address that a cell carries, not for the cell.  So a cell that
carries the address of what was made for another one takes the function from its owner when it is
freed: the call point of the owner, if the owner has it yet, or one that was released, if its address
was given again.  A cell that is freed when nothing of others lies there takes nothing.

The state of a process is kept as for exports in general (`Exporting`), with one more operation that
puts any cell in place of another.  As long as no owner is robbed, the noted addresses are those of
what was made for cells that have it yet (`Tame.step`); so a step that frees a cell with another
noted address does rob an owner (`Tame.not_intact`).

Main statement: `exports_intact_iff`.
-/
import RuntimeBridge.Proofs.Host.Isolation
import RuntimeBridge.Proofs.World.Extends
namespace RuntimeBridge

/-! ## 1. Operations -/

inductive CellOp where
  | plain (op : ExportOp)
  /-- Put anything in place of what cell `k` holds, a record with the call point of another cell
  among others. -/
  | put (k : Nat) (c : Cell)

namespace Exporting

/-- Put a cell in place of cell `k`; nothing was made for it. -/
def put (s : Exporting) (k : Nat) (c : Cell) : Exporting :=
  let r := (CellChange.put c).apply (s.cells k) s.host.world
  { host := { s.host with world := r.world }
    cells := Function.update s.cells k r.cell
    made := Function.update s.made k none
    ledger := s.ledger.release? (s.made k) }

def stepCell (s : Exporting) : CellOp → Exporting
  | .plain op => s.step op
  | .put k c => s.put k c

def runCells (s : Exporting) (ops : List CellOp) : Exporting := ops.foldl stepCell s

/-! ## 2. What may be done, and what should come of it -/

/-- Cells may carry any call points.  What was made for a cell is released by its cell alone, and no id
of an open export directly. -/
def MayCarry (s : Exporting) : CellOp → Prop
  | .plain (.release (some p)) => ∃ e ∈ s.ledger.issued, e.point = p ∧ e.forCell = false ∧
    p ∉ s.ledger.released
  | .plain (.releaseObject id) => s.Allowed (.releaseObject id)
  | _ => True

def MayCarryAll (s : Exporting) : List CellOp → Prop
  | [] => True
  | op :: ops => s.MayCarry op ∧ (s.stepCell op).MayCarryAll ops

/-- **Exports are intact**: those that were not released lead to their functions, those that were
released to nothing.  What was made for a cell counts as released when that cell is freed. -/
def Intact (s : Exporting) : Prop :=
  ∀ e ∈ s.ledger.issued, s.host.world.functionAt? e.point =
    if e.point ∈ s.ledger.released then none else some e.function

/-- Cell `k` carries the address of what was made for another cell, which has it yet. -/
def CarriesOwned (s : Exporting) (k : Nat) : Prop :=
  ∃ e ∈ s.ledger.issued, e.forCell = true ∧ e.point ∉ s.ledger.released ∧ e.point ∉ s.made k ∧
    ∃ r ∈ (s.cells k).ownedRecords, ∃ p ∈ r.point, p.address = e.point.address

/-- An operation frees a cell that carries the address of what was made for another one. -/
def RobsOwner (s : Exporting) : CellOp → Prop
  | .plain op => ∃ k ∈ vacated? op, (s.opening op).CarriesOwned k
  | .put k _ => s.CarriesOwned k

instance (s : Exporting) : (op : CellOp) → Decidable (s.MayCarry op)
  | .plain (.release (some p)) => inferInstanceAs (Decidable (∃ e ∈ s.ledger.issued,
    e.point = p ∧ e.forCell = false ∧ p ∉ s.ledger.released))
  | .plain (.releaseObject id) => inferInstanceAs (Decidable (s.Allowed (.releaseObject id)))
  | .put _ _ | .plain (.fill _ _) | .plain (.register _ _) | .plain (.unregister _ _)
  | .plain (.registerObject _) | .plain (.loadEntity _ _ _ _) | .plain (.makeCallable _ _ _)
  | .plain (.exportFunction _) | .plain (.release none) | .plain (.free _) => .isTrue trivial

instance decideMayCarryAll :
    (s : Exporting) → (ops : List CellOp) → Decidable (s.MayCarryAll ops)
  | _, [] => inferInstanceAs (Decidable True)
  | s, op :: ops => @instDecidableAnd _ _ inferInstance (decideMayCarryAll (s.stepCell op) ops)

instance (s : Exporting) : Decidable s.Intact :=
  inferInstanceAs (Decidable (∀ e ∈ s.ledger.issued, s.host.world.functionAt? e.point =
    if e.point ∈ s.ledger.released then none else some e.function))

instance (s : Exporting) (k : Nat) : Decidable (s.CarriesOwned k) :=
  inferInstanceAs (Decidable (∃ e ∈ s.ledger.issued, e.forCell = true ∧
    e.point ∉ s.ledger.released ∧ e.point ∉ s.made k ∧
    ∃ r ∈ (s.cells k).ownedRecords, ∃ p ∈ r.point, p.address = e.point.address))

instance (s : Exporting) : (op : CellOp) → Decidable (s.RobsOwner op)
  | .plain op => inferInstanceAs (Decidable (∃ k ∈ vacated? op, (s.opening op).CarriesOwned k))
  | .put k _ => inferInstanceAs (Decidable (s.CarriesOwned k))

end Exporting

/-! ## 3. What is noted -/

namespace Ledger

/-- The noted addresses are those of the open exports that were made for cells. -/
def Notes (l : Ledger) (w : World) : Prop :=
  ∀ a, a ∈ w.cellExports ↔ ∃ e, l.IsOpen e ∧ e.forCell = true ∧ e.point.address = a

namespace Notes

variable {l : Ledger} {w w' : World}

/-- Exports that are made for no cell are not noted. -/
theorem issue_plain (notes : l.Notes w) {e : Issue} (plain : e.forCell = false)
    (exports : w'.cellExports = w.cellExports) : (l.issue e).Notes w' := by
  intro a
  simp only [exports, notes a, IsOpen, Ledger.issue, List.mem_cons, and_assoc, or_and_right,
    exists_or, exists_eq_left, plain, Bool.false_eq_true, false_and, and_false, false_or]

/-- An export that is made for a cell is noted. -/
theorem issue_forCell (notes : l.Notes w) {e : Issue} (forCell : e.forCell = true)
    (unreleased : e.point ∉ l.released) (exports : w'.cellExports = e.point.address :: w.cellExports) :
    (l.issue e).Notes w' := by
  intro a
  simp only [exports, notes a, IsOpen, Ledger.issue, List.mem_cons, and_assoc, or_and_right,
    exists_or, exists_eq_left, forCell, unreleased, not_false_eq_true, true_and, @eq_comm _ a]

/-- What was made for no cell is released and was not noted. -/
theorem release_plain (notes : l.Notes w) (tallies : l.Tallies w) {e : Issue}
    (issued : e ∈ l.issued) (plain : e.forCell = false) (exports : w'.cellExports = w.cellExports) :
    (l.release e.point).Notes w' := by
  intro a
  rw [exports, notes a]
  refine exists_congr fun e' => and_congr_left fun here => and_congr_right fun issued' => ?_
  have other : e'.point ≠ e.point := by
    intro same
    have forCell := here.1
    rw [tallies.apart e' issued' e issued (congrArg CallPoint.handle? same), plain] at forCell
    cases forCell
  rw [Ledger.release, List.mem_cons, not_or, and_iff_right other]

/-- What was made for a cell is released and noted no longer. -/
theorem release_forCell (notes : l.Notes w) (tallies : l.Tallies w) {e : Issue} (opened : l.IsOpen e)
    (exports : w'.cellExports = w.cellExports.filter fun a => decide (e.point.address ≠ a)) :
    (l.release e.point).Notes w' := by
  intro a
  rw [exports, List.mem_filter, notes a, decide_eq_true_iff]
  constructor
  · rintro ⟨⟨e', ⟨issued', unreleased⟩, forCell, rfl⟩, other⟩
    refine ⟨e', ⟨issued', fun released => ?_⟩, forCell, rfl⟩
    rcases List.mem_cons.mp released with same | before
    · exact other (congrArg CallPoint.address same).symm
    · exact unreleased before
  · rintro ⟨e', ⟨issued', unreleased⟩, forCell, rfl⟩
    obtain ⟨other, before⟩ := not_or.mp ((not_congr List.mem_cons).mp unreleased)
    refine ⟨⟨e', ⟨issued', before⟩, forCell, rfl⟩, fun same => other ?_⟩
    rw [tallies.eq_of_address opened ⟨issued', before⟩ same]

end Notes

end Ledger

namespace Exporting

variable {s : Exporting}

/-! ## 4. Tame states -/

/-- A state in which each cell has what was made for it. -/
structure Tame (s : Exporting) : Prop where
  orderly : s.Orderly
  notes : s.ledger.Notes s.host.world
  /-- What was made for a cell is released with the cell. -/
  kept : ∀ k p, s.made k = some p → p ∉ s.ledger.released
  /-- Nothing was made for two cells. -/
  apart : ∀ j k p, s.made j = some p → s.made k = some p → j = k

namespace Tame

theorem start {h : Host} (unnoted : h.world.cellExports = []) : (Exporting.start h).Tame where
  orderly := .start h
  notes := by simp [Ledger.Notes, Ledger.IsOpen, Exporting.start, unnoted]
  kept := by simp [Exporting.start]
  apart := by simp [Exporting.start]

/-- **Exports are intact** in tame states. -/
theorem intact (tame : s.Tame) : s.Intact := by
  intro e issued
  have tallies := tame.orderly.tallies
  split
  next released => exact tallies.functionAt?_of_released issued released
  next unreleased => exact tallies.functionAt?_of_open ⟨issued, unreleased⟩

/-- The noted addresses that a cell carries are its own, or those of what was made for other cells. -/
theorem carriesOther_iff (tame : s.Tame) {k : Nat} : s.CarriesOther k ↔ s.CarriesOwned k := by
  constructor
  · rintro ⟨r, mem, p, point, noted, other⟩
    obtain ⟨e, ⟨issued, unreleased⟩, forCell, address⟩ := (tame.notes _).mp noted
    refine ⟨e, issued, forCell, unreleased, fun made => other ?_, r, mem, p, point, address.symm⟩
    -- all that the cell carries is its own
    obtain ⟨-, -, r', records, point'⟩ := tame.orderly.own k _ made
    rw [records, List.mem_singleton] at mem
    obtain rfl := mem
    obtain rfl : e.point = p := Option.some.inj (point'.symm.trans point)
    exact made
  · rintro ⟨e, issued, forCell, unreleased, other, r, mem, p, point, address⟩
    have noted := (tame.notes _).mpr ⟨e, ⟨issued, unreleased⟩, forCell, address.symm⟩
    refine ⟨r, mem, p, point, noted, fun made => other ?_⟩
    obtain ⟨⟨e', issued', rfl⟩, -⟩ := tame.orderly.own k p made
    have same := tame.orderly.tallies.eq_of_address ⟨issued', tame.kept k _ made⟩
      ⟨issued, unreleased⟩ address
    rwa [← same]

/-- The state before a cell is freed is tame, too. -/
theorem opening (tame : s.Tame) (op : ExportOp) : (s.opening op).Tame := by
  have orderly := tame.orderly.opening op
  cases op with
  | fill k c =>
    cases c with
    | native f =>
      have unreleased : (s.host.world.exportForCell f).1 ∉ s.ledger.released := by
        intro released
        obtain ⟨e, issued, same⟩ := tame.orderly.tallies.known _ released
        exact tame.orderly.tallies.ne_exportFunction issued f same
      exact ⟨orderly, tame.notes.issue_forCell rfl unreleased rfl, tame.kept, tame.apart⟩
    | foreign c => exact tame
  | _ => exact tame

/-! ## 5. Cells that are freed -/

/-- **Another cell in place of one** that carries nothing of others. -/
theorem replace (tame : s.Tame) {k : Nat} (spares : ¬ s.CarriesOther k) {c : Cell}
    {made? : Option CallPoint} (orderly : (s.replace k c made?).Orderly)
    (fresh : ∀ p, made? = some p → p ∉ s.ledger.released ∧ ∀ j, s.made j ≠ some p) :
    (s.replace k c made?).Tame where
  orderly := orderly
  notes := by
    show (s.ledger.release? (s.made k)).Notes (s.host.world.freeCell (s.cells k))
    cases made : s.made k with
    | none =>
      rw [Orderly.freeCell_lent spares made]
      exact tame.notes
    | some p =>
      obtain ⟨⟨e, issued, rfl⟩, noted, r, records, point⟩ := tame.orderly.own k p made
      have unreleased := tame.kept k _ made
      have freed : s.host.world.freeCell (s.cells k) = s.host.world.releaseRecord r := by
        rw [World.freeCell, records]
        rfl
      rw [freed, World.releaseRecord_noted point (noted unreleased)]
      exact tame.notes.release_forCell tame.orderly.tallies ⟨issued, unreleased⟩ rfl
  kept := by
    intro j p made released
    simp only [Exporting.replace, Function.update_apply] at made released
    rw [Ledger.mem_released_release?] at released
    split at made
    next =>
      obtain ⟨unreleased, unmade⟩ := fresh p made
      exact released.elim (unmade k) unreleased
    next other =>
      exact released.elim (fun here => other (tame.apart j k p made here)) (tame.kept j p made)
  apart := by
    intro i j p madeI madeJ
    simp only [Exporting.replace, Function.update_apply] at madeI madeJ
    split at madeI <;> split at madeJ
    next hereI hereJ => rw [hereI, hereJ]
    next => exact absurd madeJ ((fresh p madeI).2 j)
    next => exact absurd madeI ((fresh p madeJ).2 i)
    next => exact tame.apart i j p madeI madeJ

/-- A step that frees a cell with nothing of others keeps the state tame. -/
theorem step_vacating (tame : s.Tame) {op : ExportOp} {k : Nat} (frees : vacated? op = some k)
    (spares : ¬ s.RobsOwner (.plain op)) : (s.step op).Tame := by
  have opened := tame.opening op
  have spares_opening : ¬ (s.opening op).CarriesOther k := fun carries =>
    spares ⟨k, frees, opened.carriesOther_iff.mp carries⟩
  have may : s.MayVacate k := fun p made => tame.kept k p made
  have orderly := tame.orderly.step_vacating frees may spares_opening
  rcases step_of_vacated (s := s) frees with ⟨c, same⟩ | ⟨f, rfl, same⟩ <;> rw [same] at orderly ⊢
  · exact opened.replace spares_opening orderly nofun
  · refine opened.replace spares_opening orderly ?_
    rintro p ⟨⟩
    refine ⟨fun released => ?_, fun j made => ?_⟩
    · obtain ⟨e, issued, same⟩ := tame.orderly.tallies.known _ released
      exact tame.orderly.tallies.ne_exportFunction issued f same
    · obtain ⟨⟨e, issued, same⟩, -⟩ := tame.orderly.own j _ made
      exact tame.orderly.tallies.ne_exportFunction issued f same

/-! ## 6. Steps -/

/-- What was made for no cell is not what a cell has. -/
theorem made_ne (tame : s.Tame) {e : Issue} (opened : s.ledger.IsOpen e) (plain : e.forCell = false)
    (k : Nat) : s.made k ≠ some e.point := by
  intro made
  obtain ⟨-, noted, -⟩ := tame.orderly.own k _ made
  obtain ⟨e', opened', forCell, address⟩ := (tame.notes _).mp (noted opened.2)
  rw [tame.orderly.tallies.eq_of_address opened' opened address, plain] at forCell
  cases forCell

theorem exportFound (tame : s.Tame) (found : Except BridgeError NativeFunction) :
    (s.answered found (s.host.exportFound found)).Tame := by
  have orderly := tame.orderly.exportFound found
  cases found with
  | error e => exact tame
  | ok f => exact ⟨orderly, tame.notes.issue_plain rfl rfl, tame.kept, tame.apart⟩

/-- **Steps that free no cell** keep the state tame. -/
theorem step_other (tame : s.Tame) {op : ExportOp} (may : s.MayCarry (.plain op))
    (nothing : vacated? op = none) : (s.step op).Tame := by
  have orderly : (s.step op).Orderly := by
    refine tame.orderly.step_other nothing ?_ ?_
    · rintro p rfl
      obtain ⟨e, issued, rfl, -, unreleased⟩ := may
      exact ⟨e, ⟨issued, unreleased⟩, rfl⟩
    · rintro id rfl e opened
      exact may e opened.1 opened.2
  cases op with
  | register module f => exact ⟨orderly, tame.notes, tame.kept, tame.apart⟩
  | unregister module name => exact ⟨orderly, tame.notes, tame.kept, tame.apart⟩
  | registerObject o => exact ⟨orderly, tame.notes, tame.kept, tame.apart⟩
  | releaseObject id =>
    refine ⟨orderly, ?_, tame.kept, tame.apart⟩
    show (s.ledger.strike id).Notes (s.host.world.releaseObject id).2
    rw [World.releaseObject_eq]
    exact tame.notes
  | loadEntity module path params retvals => exact tame.exportFound _
  | makeCallable id params retvals =>
    have checked := Orderly.answered_checked (s := s) (s.host.world.registeredFunction id) params retvals
    show (s.answered _ (s.host.exportFound _)).Tame
    rw [checked]
    exact tame.exportFound _
  | exportFunction f => exact tame.exportFound (.ok f)
  | release p =>
    cases p with
    | none => exact tame
    | some p =>
      obtain ⟨e, issued, rfl, plain, unreleased⟩ := may
      refine ⟨orderly, ?_, fun k p made released => ?_, tame.apart⟩
      · refine tame.notes.release_plain tame.orderly.tallies issued plain ?_
        show (s.host.world.releaseExport (some e.point)).2.cellExports = _
        rw [World.releaseExport_eq]
      · rcases List.mem_cons.mp released with rfl | before
        · exact tame.made_ne ⟨issued, unreleased⟩ plain k made
        · exact tame.kept k p made before
  | fill k c =>
    have long : c.isShort = false := by simpa [vacated?] using nothing
    have same : s.step (.fill k c) = s := fill_of_long long s k
    rw [same]
    exact tame
  | free k => cases nothing

/-- **One step** that robs no owner keeps the state tame. -/
theorem step (tame : s.Tame) {op : CellOp} (may : s.MayCarry op) (spares : ¬ s.RobsOwner op) :
    (s.stepCell op).Tame := by
  cases op with
  | plain op =>
    cases frees : vacated? op with
    | none => exact tame.step_other may frees
    | some k => exact tame.step_vacating frees spares
  | put k c =>
    have spares' : ¬ s.CarriesOther k := spares ∘ tame.carriesOther_iff.mp
    have orderly : (s.replace k c none).Orderly :=
      tame.orderly.replace (fun p made => tame.kept k p made) spares' c none nofun
    exact tame.replace spares' orderly nofun

/-- Freeing a cell takes away what was made for another one. -/
theorem not_intact_replace (tame : s.Tame) {k : Nat} (carries : s.CarriesOwned k) (c : Cell)
    (made? : Option CallPoint) : ¬ (s.replace k c made?).Intact := by
  intro intact
  obtain ⟨e, issued, forCell, unreleased, other, r, mem, p, point, address⟩ := carries
  have tallies := tame.orderly.tallies
  have noted : e.point.address ∈ s.host.world.cellExports :=
    (tame.notes _).mpr ⟨e, ⟨issued, unreleased⟩, forCell, rfl⟩
  have carried : e.point.address ∈ addressesOf (s.cells k).ownedRecords :=
    mem_addressesOf.mpr ⟨r, mem, (congrArg (Option.map CallPoint.address) point).trans
      (congrArg some address)⟩
  have leads := tallies.functionAt?_of_open ⟨issued, unreleased⟩
  have gave : s.host.world.Gave e.point := World.gave_of_functionAt? (by simp [leads])
  have gone : (s.host.world.freeCell (s.cells k)).functionAt? e.point = none :=
    World.functionAt?_releaseRecords (tallies.lies e ⟨issued, unreleased⟩) noted gave carried
  have unreleased' : e.point ∉ (s.ledger.release? (s.made k)).released := by
    rw [Ledger.mem_released_release?]
    exact not_or.mpr ⟨other, unreleased⟩
  have there := intact e ((s.ledger.issued_release? _).symm ▸ issued)
  exact nomatch gone.symm.trans (there.trans (if_neg unreleased'))

/-- **A step that robs an owner** leaves exports that are not intact. -/
theorem not_intact (tame : s.Tame) {op : CellOp} (robs : s.RobsOwner op) :
    ¬ (s.stepCell op).Intact := by
  cases op with
  | plain op =>
    obtain ⟨k, frees, carries⟩ := robs
    have opened := tame.opening op
    show ¬ (s.step op).Intact
    rcases step_of_vacated (s := s) frees with ⟨c, same⟩ | ⟨f, -, same⟩ <;> rw [same] <;>
      exact opened.not_intact_replace carries _ _
  | put k c => exact tame.not_intact_replace robs c none

/-! ## 7. Runs -/

/-- Exports are intact all along just as long as no step robs an owner. -/
theorem run_iff (tame : s.Tame) {ops : List CellOp} (may : s.MayCarryAll ops) :
    (∀ n ≤ ops.length, (s.runCells (ops.take n)).Intact) ↔
      ∀ n (h : n < ops.length), ¬ (s.runCells (ops.take n)).RobsOwner ops[n] := by
  induction ops generalizing s with
  | nil =>
    refine iff_of_true (fun n le => ?_) nofun
    obtain rfl : n = 0 := Nat.le_zero.mp le
    exact tame.intact
  | cons op ops ih =>
    constructor
    · intro intact
      have spares : ¬ s.RobsOwner op := fun robs =>
        tame.not_intact robs (intact 1 (Nat.succ_le_succ (Nat.zero_le _)))
      have later := ih (tame.step may.1 spares) may.2
      rintro (_ | n) h
      · exact spares
      · exact later.mp (fun m le => intact (m + 1) (Nat.succ_le_succ le)) n (Nat.lt_of_succ_lt_succ h)
    · intro spares
      have later := ih (tame.step may.1 (spares 0 (Nat.succ_pos _))) may.2
      rintro (_ | n) le
      · exact tame.intact
      · exact later.mpr (fun m h => spares (m + 1) (Nat.succ_lt_succ h)) n (Nat.le_of_succ_le_succ le)

end Tame

end Exporting

/-- **Freeing or overwriting a cell releases its own export and no other**, all along a run, if and
only if no step of the run frees a cell that carries the address of what was made for another cell,
which has it yet.  Until then what was made for a cell leads to its function as long as that cell keeps
it, wherever call points are placed. -/
theorem exports_intact_iff {h : Host} (unnoted : h.world.cellExports = []) {ops : List CellOp}
    (may : (Exporting.start h).MayCarryAll ops) :
    (∀ n ≤ ops.length, ((Exporting.start h).runCells (ops.take n)).Intact) ↔
      ∀ n (h' : n < ops.length), ¬ ((Exporting.start h).runCells (ops.take n)).RobsOwner ops[n] :=
  (Exporting.Tame.start unnoted).run_iff may

/-- A cell that carries the call point at an address of a function of no parameters and no results. -/
def carrying (address id : Nat) : Cell :=
  .ofCallable ⟨some (plainPoint address id), [], []⟩

/-- Two cells get exports, two others carry their call points.  One owner is freed before the cell that
carries its call point, and one outlives the run. -/
def ownersFirst : List CellOp :=
  [.plain (.fill 0 (.native incumbent)), .plain (.fill 1 (.native successor)),
    .put 2 (carrying 0 1), .put 3 (carrying 1 2), .plain (.free 0), .plain (.free 2)]

theorem exports_intact_ownersFirst :
    ((Exporting.start {}).runCells ownersFirst).host.world.functionAt? (plainPoint 1 2) =
        some successor ∧
      ∀ n ≤ ownersFirst.length, ((Exporting.start {}).runCells (ownersFirst.take n)).Intact := by
  have may : (Exporting.start {}).MayCarryAll ownersFirst := by decide +kernel
  have intact := (exports_intact_iff (h := {}) rfl may).mpr (by decide +kernel)
  exact ⟨intact 6 (Nat.le_refl _) ⟨plainPoint 1 2, successor, true⟩ (by decide +kernel), intact⟩

/-- An owner is freed first, but its address is given again: the cell that carries it takes the next
function that was exported there. -/
example : ¬ ((Exporting.start stackingHost).runCells
    [.plain (.fill 0 (.native incumbent)), .put 1 (carrying 0 1), .plain (.free 0),
      .plain (.fill 2 (.native successor)), .plain (.free 1)]).Intact := by
  decide +kernel

/-- **Freeing a cell that carries** a call point takes the function from the cell that it was made
for. -/
theorem exports_not_intact :
    ¬ ∀ ops : List CellOp, (Exporting.start {}).MayCarryAll ops →
      ∀ n ≤ ops.length, ((Exporting.start {}).runCells (ops.take n)).Intact := by
  intro always
  have intact := always [.plain (.fill 0 (.native incumbent)), .put 1 (carrying 0 1), .plain (.free 1)]
    (by decide +kernel) 3 (Nat.le_refl _)
  exact absurd intact (by decide +kernel)

end RuntimeBridge
