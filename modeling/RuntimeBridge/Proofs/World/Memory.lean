/-
# Call points in memory

A call point is placed where nothing lies, and lies there until it is dropped, whatever is placed and
dropped elsewhere meanwhile.  What lies at an address then is what was placed there last, and nothing
else has that address (`World.Holds`).

An allocator may give an address again, so a call point that was dropped tells nothing of what lies at
its address later.
-/
import RuntimeBridge.World.Exports
namespace RuntimeBridge.World

variable {w : World} {p q : CallPoint}

/-! ## 1. Looking at an address -/

theorem mem_taken {a : Nat} : a ∈ w.taken ↔ ∃ p ∈ w.points, p.address = a :=
  List.mem_map

/-- The call point lies at its address. -/
def Holds (w : World) (p : CallPoint) : Prop :=
  w.points.find? (fun q => q.address == p.address) = some p

theorem Holds.pointAt (h : w.Holds p) : w.pointAt p = p := by
  rw [World.pointAt, h, Option.getD_some]

theorem Holds.address_mem_taken (h : w.Holds p) : p.address ∈ w.taken :=
  mem_taken.mpr ⟨p, List.mem_of_find?_eq_some h, rfl⟩

/-- One address, one call point. -/
theorem Holds.unique (h : w.Holds p) (h' : w.Holds q) (same : p.address = q.address) : p = q := by
  rw [Holds, same] at h
  exact Option.some.inj (h.symm.trans h')

/-- Something lies at every address that is taken. -/
theorem holds_of_mem_taken {a : Nat} (taken : a ∈ w.taken) : ∃ p, w.Holds p ∧ p.address = a := by
  obtain ⟨q, mem, rfl⟩ := mem_taken.mp taken
  have matching : (w.points.find? fun p => p.address == q.address).isSome :=
    List.find?_isSome.mpr ⟨q, mem, beq_self_eq_true _⟩
  obtain ⟨p, found⟩ := Option.isSome_iff_exists.mp matching
  have address : p.address = q.address := by simpa using List.find?_some found
  exact ⟨p, by rw [Holds, address, found], address⟩

/-- What lies at an address has it. -/
theorem pointAt_congr (same : p.address = q.address) (taken : q.address ∈ w.taken) :
    w.pointAt p = w.pointAt q := by
  obtain ⟨r, holds, address⟩ := holds_of_mem_taken taken
  have found : w.points.find? (fun s => s.address == q.address) = some r := address ▸ holds
  rw [pointAt, pointAt, same, found, Option.getD_some, Option.getD_some]

/-! ## 2. Placing -/

theorem placePoint_vacant (w : World) (target : CallTarget) :
    (w.placePoint target).1.address ∉ w.taken :=
  w.allocator.vacant _ _

theorem holds_placePoint (w : World) (target : CallTarget) :
    (w.placePoint target).2.Holds (w.placePoint target).1 :=
  List.find?_cons_of_pos (beq_self_eq_true _)

/-- What lies in memory stays when something is placed elsewhere. -/
theorem Holds.cons (h : w.Holds p) {w' : World} (points : w'.points = q :: w.points)
    (vacant : q.address ∉ w.taken) : w'.Holds p := by
  have other : (q.address == p.address) = false :=
    beq_eq_false_iff_ne.mpr fun same => vacant (same ▸ h.address_mem_taken)
  rw [Holds, points, List.find?_cons, other]
  exact h

theorem pointAt_cons {w' : World} (points : w'.points = q :: w.points) (p : CallPoint) :
    w'.pointAt p = if p.address = q.address then q else w.pointAt p := by
  by_cases same : p.address = q.address
  · simp [pointAt, points, same]
  · have other : (q.address == p.address) = false := beq_eq_false_iff_ne.mpr (Ne.symm same)
    simp [pointAt, points, other, same]

/-! ## 3. Dropping -/

/-- The call points that lie elsewhere than at an address, if there is one. -/
def pointsBeyond (w : World) (a? : Option Nat) : List CallPoint :=
  w.points.filter fun q => decide (a? ≠ some q.address)

theorem pointsBeyond_none (w : World) : w.pointsBeyond none = w.points :=
  List.filter_eq_self.mpr fun _ _ => by simp

theorem points_dropPoint (w : World) (p : CallPoint) :
    (w.dropPoint p).points = w.pointsBeyond (some p.address) := by
  refine List.filter_congr fun q _ => ?_
  simp [bne, eq_comm, Bool.beq_eq_decide_eq]

theorem find?_pointsBeyond {a? : Option Nat} (other : a? ≠ some p.address) :
    (w.pointsBeyond a?).find? (fun q => q.address == p.address) =
      w.points.find? fun q => q.address == p.address := by
  rw [pointsBeyond, List.find?_filter]
  congr 1
  funext q
  rw [Bool.eq_iff_iff]
  simp only [decide_eq_true_eq, beq_iff_eq, and_iff_right_iff_imp]
  intro here
  rw [here]
  exact other

/-- What lies at one address stays when another one is cleared. -/
theorem pointAt_beyond {w' : World} {a? : Option Nat} (points : w'.points = w.pointsBeyond a?)
    (other : a? ≠ some p.address) : w'.pointAt p = w.pointAt p := by
  rw [pointAt, pointAt, points, find?_pointsBeyond other]

theorem Holds.beyond (h : w.Holds p) {w' : World} {a? : Option Nat}
    (points : w'.points = w.pointsBeyond a?) (other : a? ≠ some p.address) : w'.Holds p := by
  rw [Holds, points, find?_pointsBeyond other]
  exact h

end RuntimeBridge.World
