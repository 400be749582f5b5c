/-
# What a process forgets nothing of

While values go to and fro, a process mints ids and addresses, and frees what overwritten cells owned.
Nothing else of it changes, and but for the ids that were freed, everything that was given an id still
stands for what it stood for (`World.GrowsTo`).

Freeing a callable record releases an id only if the address of its call point is noted, and then the id
of what lies there.  What lies at an address that is noted later lay there before and was noted then, or
was given its id since; so the ids that freeing some cells may release are known in advance.

Main statements: one lemma for each operation, `GrowsTo.registerObject` to `GrowsTo.freeCell`.
-/
import RuntimeBridge.Proofs.World.Freeing
namespace RuntimeBridge.World

/-! ## 1. Growth -/

/-- The later state is the one before with more ids and addresses given out, and some ids freed. -/
structure GrowsTo (w : World) (freed : Nat → Prop) (later : World) : Prop where
  frame : later =
    { w with
      objects := later.objects
      points := later.points
      cellExports := later.cellExports
      supply := later.supply }
  supply : w.supply ≤ later.supply
  noted : ∀ p : CallPoint, p.address ∈ later.cellExports →
    (p.address ∈ w.cellExports ∧ later.pointAt p = w.pointAt p) ∨
      ∀ id, (later.pointAt p).handle? = some id → w.objects.nextId ≤ id
  grows : w.objects.nextId ≤ later.objects.nextId
  same : ∀ id < w.objects.nextId, ¬ freed id →
    later.objects.resolve? id = w.objects.resolve? id

namespace GrowsTo

variable {w later : World} {freed : Nat → Prop}

theorem refl (w : World) (freed : Nat → Prop) : w.GrowsTo freed w where
  frame := rfl
  supply := Nat.le_refl _
  noted _ noted := .inl ⟨noted, rfl⟩
  grows := Nat.le_refl _
  same _ _ _ := rfl

/-- More may count as freed. -/
theorem mono (h : w.GrowsTo freed later) {more : Nat → Prop} (wider : ∀ id, freed id → more id) :
    w.GrowsTo more later :=
  { h with same := fun id given kept => h.same id given (kept ∘ wider id) }

/-! ## 2. Minting -/

/-- Numbers are given out. -/
theorem setSupply (h : w.GrowsTo freed later) {supply : Nat} (more : later.supply ≤ supply) :
    w.GrowsTo freed { later with supply } :=
  { h with
    frame := by rw [h.frame]
    supply := Nat.le_trans h.supply more }

theorem registerObject (h : w.GrowsTo freed later) (o : Object) :
    w.GrowsTo freed (later.registerObject o).2 where
  frame := by
    rw [h.frame]
    rfl
  supply := h.supply
  noted := h.noted
  grows := Nat.le_trans h.grows (Nat.le_succ _)
  same id given kept := by
    show (later.objects.register o).2.resolve? id = _
    rw [HandleTable.resolve?_register, if_neg (Nat.ne_of_lt (Nat.lt_of_lt_of_le given h.grows))]
    exact h.same id given kept

theorem exportForCell (h : w.GrowsTo freed later) (f : NativeFunction) :
    w.GrowsTo freed (later.exportForCell f).2 :=
  let registered := h.registerObject (.ofFunction f)
  { registered.setSupply (Nat.le_succ _) with
    frame := by
      rw [h.frame]
      rfl
    noted := by
      intro p noted
      have placed : (later.exportForCell f).2.pointAt p =
          if p.address = (later.exportForCell f).1.address then (later.exportForCell f).1
          else later.pointAt p := pointAt_cons rfl p
      rw [placed]
      split
      next =>
        -- the call point that was placed now has an id that was given now
        right
        rintro id ⟨⟩
        exact h.grows
      next elsewhere => exact h.noted p ((List.mem_cons.mp noted).resolve_left elsewhere) }

/-! ## 3. Freeing -/

theorem releaseRecord (h : w.GrowsTo freed later) {r : CallableRecord}
    (covered : ∀ id, w.releasedBy? r = some id → freed id) :
    w.GrowsTo freed (later.releaseRecord r) := by
  -- an id that is released would have been released before, or was given since
  have released : ∀ id, later.releasedBy? r = some id → freed id ∨ w.objects.nextId ≤ id := by
    intro id releases
    obtain ⟨p, point, noted, behind⟩ := of_releasedBy? releases
    rcases h.noted p noted with ⟨before, same⟩ | given
    · refine .inl (covered id ?_)
      rw [releasedBy?, point, Option.bind_some, if_pos before, ← same, behind]
    · exact .inr (given id behind)
  rw [releaseRecord_eq]
  refine ⟨?_, h.supply, fun p noted => ?_, ?_, ?_⟩
  · rw [h.frame]
  · obtain ⟨before, other⟩ := List.mem_filter.mp noted
    have elsewhere : later.vacatedBy? r ≠ some p.address := fun vacated =>
      of_decide_eq_true other (of_vacatedBy? vacated).1
    rw [pointAt_beyond rfl elsewhere]
    exact h.noted p before
  · exact Nat.le_trans h.grows (Nat.le_of_eq (later.objects.nextId_dropping _).symm)
  · intro id given kept
    have other : later.releasedBy? r ≠ some id := fun releases =>
      (released id releases).elim kept (Nat.not_le.mpr given)
    simp only [HandleTable.resolve?_dropping, if_neg other]
    exact h.same id given kept

theorem freeCell (h : w.GrowsTo freed later) {c : Cell}
    (covered : ∀ r ∈ c.ownedRecords, ∀ id, w.releasedBy? r = some id → freed id) :
    w.GrowsTo freed (later.freeCell c) := by
  rw [World.freeCell]
  generalize c.ownedRecords = rs at covered
  induction rs generalizing later with
  | nil => exact h
  | cons r rs ih =>
    obtain ⟨first, rest⟩ := List.forall_mem_cons.mp covered
    exact ih (h.releaseRecord first) rest

end GrowsTo

end RuntimeBridge.World
