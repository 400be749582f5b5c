/-
# A ledger of exports

A ledger tells what was exported and what was registered directly, and which of the exports were
released.  It tallies with a process if that is all there is to the objects table: one entry for each
export that is open, one for each object registered directly, and no id stands for two things.  The call
points of open exports lie in memory; the address of a released one may be that of another export since,
so it is the id that tells exports apart.

From a ledger that tallies one reads off what call points lead to: an open one to the function it was
made for, a released one to nothing (`Tallies.functionAt?_of_open`, `Tallies.functionAt?_of_released`).
Each operation on the table has an operation on ledgers beside it, and tallies again.
-/
import RuntimeBridge.Proofs.World.Freeing
namespace RuntimeBridge

/-! ## 1. Ledgers -/

/-- An export: its call point, the function it was made for, and whether it was made for a cell. -/
structure Issue where
  point : CallPoint
  function : NativeFunction
  forCell : Bool
  deriving DecidableEq

structure Ledger where
  issued : List Issue := []
  released : List CallPoint := []
  /-- Objects that were registered directly and not released directly, under their ids. -/
  direct : List (Nat × Object) := []

namespace Ledger

/-- The export was made and not released. -/
def IsOpen (l : Ledger) (e : Issue) : Prop := e ∈ l.issued ∧ e.point ∉ l.released

def issue (l : Ledger) (e : Issue) : Ledger := { l with issued := e :: l.issued }

/-- Enter an export, if one was made. -/
def issue? (l : Ledger) : Option Issue → Ledger
  | some e => l.issue e
  | none => l

def release (l : Ledger) (p : CallPoint) : Ledger := { l with released := p :: l.released }

/-- Enter that a call point was released, if there is one. -/
def release? (l : Ledger) : Option CallPoint → Ledger
  | some p => l.release p
  | none => l

theorem issued_release? (l : Ledger) (p? : Option CallPoint) :
    (l.release? p?).issued = l.issued := by
  cases p? <;> rfl

theorem mem_released_release? {l : Ledger} {p? : Option CallPoint} {p : CallPoint} :
    p ∈ (l.release? p?).released ↔ p ∈ p? ∨ p ∈ l.released := by
  cases p? with
  | none => simp [release?]
  | some q => simp [release?, release, eq_comm]

def enter (l : Ledger) (id : Nat) (o : Object) : Ledger :=
  { l with direct := l.direct ++ [(id, o)] }

def strike (l : Ledger) (id : Nat) : Ledger :=
  { l with direct := l.direct.filter fun e => e.1 != id }

structure Tallies (l : Ledger) (w : World) : Prop where
  /-- Exports were made before, under an id that was given then. -/
  made : ∀ e ∈ l.issued, ∃ id, e.point.handle? = some id ∧ id < w.objects.nextId
  /-- No two exports share their id. -/
  apart : ∀ e ∈ l.issued, ∀ e' ∈ l.issued, e.point.handle? = e'.point.handle? → e = e'
  /-- Open exports lie in memory. -/
  lies : ∀ e, l.IsOpen e → w.Holds e.point
  known : ∀ p ∈ l.released, ∃ e ∈ l.issued, e.point = p
  /-- What was registered directly has no id of an export. -/
  separate : ∀ d ∈ l.direct, ∀ e ∈ l.issued, e.point.handle? ≠ some d.1
  /-- That is all there is to the table. -/
  entries : ∀ id o, (id, o) ∈ w.objects.entries ↔
    (∃ e, l.IsOpen e ∧ e.point.handle? = some id ∧ o = .ofFunction e.function) ∨ (id, o) ∈ l.direct

namespace Tallies

variable {l : Ledger} {w : World}

/-! ## 2. What call points lead to -/

/-- The id of a released export stands for nothing. -/
theorem absent_of_released (h : l.Tallies w) {e : Issue} (mem : e ∈ l.issued)
    (released : e.point ∈ l.released) {id : Nat} (handle : e.point.handle? = some id) (o : Object) :
    (id, o) ∉ w.objects.entries := by
  intro entry
  rcases (h.entries id o).mp entry with ⟨e', ⟨mem', unreleased⟩, handle', -⟩ | direct
  · obtain rfl := h.apart e mem e' mem' (handle.trans handle'.symm)
    exact unreleased released
  · exact h.separate _ direct e mem handle

theorem resolve?_of_open (h : l.Tallies w) {e : Issue} (opened : l.IsOpen e) {id : Nat}
    (handle : e.point.handle? = some id) :
    w.objects.resolve? id = some (.ofFunction e.function) := by
  have entry : (id, Object.ofFunction e.function) ∈ w.objects.entries :=
    (h.entries _ _).mpr (.inl ⟨e, opened, handle, rfl⟩)
  have matching : (w.objects.entries.find? fun x => x.1 == id).isSome :=
    List.find?_isSome.mpr ⟨_, entry, by simp⟩
  obtain ⟨⟨id', o⟩, found⟩ := Option.isSome_iff_exists.mp matching
  obtain rfl : id' = id := by simpa using List.find?_some found
  rw [HandleTable.resolve?, found, Option.map_some]
  rcases (h.entries _ _).mp (List.mem_of_find?_eq_some found) with
    ⟨e', ⟨mem', -⟩, handle', rfl⟩ | direct
  · rw [h.apart e opened.1 e' mem' (handle.trans handle'.symm)]
  · exact absurd handle (h.separate _ direct e opened.1)

/-- **An open call point** leads to the function that it was made for. -/
theorem functionAt?_of_open (h : l.Tallies w) {e : Issue} (opened : l.IsOpen e) :
    w.functionAt? e.point = some e.function := by
  obtain ⟨id, handle, -⟩ := h.made e opened.1
  rw [World.functionAt?_eq, handle, Option.bind_some, h.resolve?_of_open opened handle]
  rfl

/-- **A released call point** leads to nothing. -/
theorem functionAt?_of_released (h : l.Tallies w) {e : Issue} (mem : e ∈ l.issued)
    (released : e.point ∈ l.released) : w.functionAt? e.point = none := by
  obtain ⟨id, handle, -⟩ := h.made e mem
  have absent : w.objects.resolve? id = none := by
    rw [HandleTable.resolve?, Option.map_eq_none_iff, List.find?_eq_none]
    rintro ⟨other, o⟩ entry
    have := h.absent_of_released mem released handle o
    simp only [beq_iff_eq]
    rintro rfl
    exact this entry
  rw [World.functionAt?_eq, handle, Option.bind_some, absent]
  rfl

/-! ## 3. Operations -/

/-- A ledger of no exports tallies if all that is in the table was registered directly. -/
theorem of_table (w : World) : Tallies ⟨[], [], w.objects.entries⟩ w where
  made := by simp
  apart := by simp
  lies := by simp [IsOpen]
  known := by simp
  separate := by simp
  entries := by simp [IsOpen]

/-- What the ledger does not mention may change, and more may lie in memory. -/
theorem of_same {w' : World} (h : l.Tallies w) (objects : w'.objects = w.objects)
    (points : ∀ p, w.Holds p → w'.Holds p) : l.Tallies w' where
  made := by
    rw [objects]
    exact h.made
  apart := h.apart
  lies e opened := points _ (h.lies e opened)
  known := h.known
  separate := h.separate
  entries := objects ▸ h.entries

/-- The ids of exports and of what was registered directly were given before. -/
theorem lt_nextId (h : l.Tallies w) {d : Nat × Object} (mem : d ∈ l.direct) :
    d.1 < w.objects.nextId :=
  (w.objects.given d ((h.entries d.1 d.2).mpr (.inr mem))).2

/-- The next id belongs to no export. -/
theorem fresh_handle (h : l.Tallies w) {e : Issue} (mem : e ∈ l.issued) :
    e.point.handle? ≠ some w.objects.nextId := by
  obtain ⟨id, handle, given⟩ := h.made e mem
  rw [handle]
  exact fun same => Nat.ne_of_lt given (Option.some.inj same)

theorem ne_exportFunction (h : l.Tallies w) {e : Issue} (mem : e ∈ l.issued) (f : NativeFunction) :
    e.point ≠ (w.exportFunction f).1 :=
  fun same => h.fresh_handle mem (congrArg CallPoint.handle? same)

/-- An export is open at an address of its own. -/
theorem eq_of_address (h : l.Tallies w) {e e' : Issue} (opened : l.IsOpen e) (opened' : l.IsOpen e')
    (same : e.point.address = e'.point.address) : e = e' :=
  h.apart e opened.1 e' opened'.1
    (congrArg CallPoint.handle? ((h.lies e opened).unique (h.lies e' opened') same))

theorem registerObject (h : l.Tallies w) (o : Object) :
    (l.enter w.objects.nextId o).Tallies (w.registerObject o).2 where
  made := by
    intro e mem
    obtain ⟨id, handle, given⟩ := h.made e mem
    exact ⟨id, handle, Nat.lt_succ_of_lt given⟩
  apart := h.apart
  lies := h.lies
  known := h.known
  separate := by
    intro d mem e issued
    rcases List.mem_append.mp mem with mem | mem
    · exact h.separate d mem e issued
    · obtain rfl := List.mem_singleton.mp mem
      exact h.fresh_handle issued
  entries := by
    intro id x
    show (id, x) ∈ w.objects.entries ++ [(w.objects.nextId, o)] ↔ _ ∨ (id, x) ∈ l.direct ++ _
    rw [List.mem_append, List.mem_append, h.entries, or_assoc]
    rfl

/-- Releasing an id directly, unless it belongs to an open export. -/
theorem releaseObject (h : l.Tallies w) {id : Nat}
    (direct : ∀ e, l.IsOpen e → e.point.handle? ≠ some id) :
    (l.strike id).Tallies (w.releaseObject id).2 := by
  rw [World.releaseObject_eq]
  refine ⟨?_, h.apart, h.lies, h.known, ?_, ?_⟩
  · intro e mem
    rw [HandleTable.nextId_dropping]
    exact h.made e mem
  · exact fun d mem => h.separate d (List.mem_filter.mp mem).1
  · intro other x
    rw [HandleTable.entries_dropping, List.mem_filter, h.entries, or_and_right]
    refine or_congr ?_ ?_
    · refine ⟨And.left, fun here => ⟨here, ?_⟩⟩
      obtain ⟨e, opened, handle, -⟩ := here
      exact decide_eq_true fun same => direct e opened (handle.trans same.symm)
    · rw [strike, List.mem_filter, decide_eq_true_iff, bne_iff_ne]
      exact and_congr_right fun _ => not_congr (Option.some_inj.trans eq_comm)

/-- **A new export** is open, at an address where nothing lay and under an id of its own. -/
theorem exportFunction (h : l.Tallies w) (f : NativeFunction) (forCell : Bool) :
    (l.issue ⟨(w.exportFunction f).1, f, forCell⟩).Tallies (w.exportFunction f).2 where
  made := by
    intro e mem
    rcases List.mem_cons.mp mem with rfl | mem
    · exact ⟨w.objects.nextId, rfl, Nat.lt_succ_self _⟩
    · obtain ⟨id, handle, given⟩ := h.made e mem
      exact ⟨id, handle, Nat.lt_succ_of_lt given⟩
  apart := by
    intro e mem e' mem' same
    rcases List.mem_cons.mp mem with rfl | mem <;> rcases List.mem_cons.mp mem' with rfl | mem'
    · rfl
    · exact absurd same.symm (h.fresh_handle mem')
    · exact absurd same (h.fresh_handle mem)
    · exact h.apart e mem e' mem' same
  lies := by
    rintro e ⟨mem, unreleased⟩
    rcases List.mem_cons.mp mem with rfl | mem
    · exact World.holds_placePoint _ _
    · exact (h.lies e ⟨mem, unreleased⟩).cons rfl (World.placePoint_vacant _ _)
  known := by
    intro p mem
    obtain ⟨e, issued, same⟩ := h.known p mem
    exact ⟨e, List.mem_cons_of_mem _ issued, same⟩
  separate := by
    intro d mem e issued
    rcases List.mem_cons.mp issued with rfl | issued
    · have := h.lt_nextId mem
      exact fun same => Nat.ne_of_gt this (Option.some.inj same)
    · exact h.separate d mem e issued
  entries := by
    intro id x
    show (id, x) ∈ w.objects.entries ++ [(w.objects.nextId, .ofFunction f)] ↔ _
    rw [List.mem_append, h.entries, List.mem_singleton]
    constructor
    · rintro ((⟨e, ⟨mem, opened⟩, handle, rfl⟩ | direct) | new)
      · exact .inl ⟨e, ⟨List.mem_cons_of_mem _ mem, opened⟩, handle, rfl⟩
      · exact .inr direct
      · obtain ⟨rfl, rfl⟩ := Prod.mk.inj new
        refine .inl ⟨_, ⟨List.mem_cons_self, fun released => ?_⟩, rfl, rfl⟩
        obtain ⟨e, issued, same⟩ := h.known _ released
        exact h.ne_exportFunction issued f same
    · rintro (⟨e, ⟨mem, opened⟩, handle, rfl⟩ | direct)
      · rcases List.mem_cons.mp mem with rfl | mem
        · exact .inr (by rw [← Option.some.inj handle])
        · exact .inl (.inl ⟨e, ⟨mem, opened⟩, handle, rfl⟩)
      · exact .inl (.inr direct)

/-- **A released export** takes its own entry with it, and no other, and leaves its address. -/
theorem release (h : l.Tallies w) {e : Issue} (opened : l.IsOpen e) :
    (l.release e.point).Tallies
      { w with
        objects := w.objects.dropping (w.pointAt e.point).handle?
        points := w.pointsBeyond (w.clearedBy? e.point) } := by
  have cleared : w.clearedBy? e.point = some e.point.address := by
    obtain ⟨id, handle, -⟩ := h.made e opened.1
    rw [World.clearedBy?, (h.lies e opened).pointAt, handle, Option.map_some]
  rw [(h.lies e opened).pointAt, cleared]
  refine ⟨?_, h.apart, ?_, ?_, h.separate, ?_⟩
  · intro e' mem'
    rw [HandleTable.nextId_dropping]
    exact h.made e' mem'
  · rintro e' ⟨mem', unreleased'⟩
    obtain ⟨other, unreleased⟩ := not_or.mp ((not_congr List.mem_cons).mp unreleased')
    refine (h.lies e' ⟨mem', unreleased⟩).beyond rfl fun same => other ?_
    rw [h.eq_of_address opened ⟨mem', unreleased⟩ (Option.some.inj same)]
  · intro p released
    rcases List.mem_cons.mp released with rfl | released
    · exact ⟨e, opened.1, rfl⟩
    · exact h.known p released
  · intro id x
    rw [HandleTable.entries_dropping, List.mem_filter, h.entries, decide_eq_true_iff]
    constructor
    · rintro ⟨⟨e', ⟨mem', opened'⟩, handle, rfl⟩ | direct, other⟩
      · refine .inl ⟨e', ⟨mem', ?_⟩, handle, rfl⟩
        intro released
        rcases List.mem_cons.mp released with same | released
        · exact other (same ▸ handle)
        · exact opened' released
      · exact .inr direct
    · rintro (⟨e', ⟨mem', opened'⟩, handle, rfl⟩ | direct)
      · obtain ⟨other, unreleased⟩ := not_or.mp ((not_congr List.mem_cons).mp opened')
        refine ⟨.inl ⟨e', ⟨mem', unreleased⟩, handle, rfl⟩, fun same => ?_⟩
        exact other (congrArg Issue.point (h.apart e' mem' e opened.1 (handle.trans same.symm)))
      · exact ⟨.inr direct, h.separate _ direct e opened.1⟩

end Tallies

end Ledger

end RuntimeBridge
