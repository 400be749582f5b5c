/-
# What a source announced

A source answers as it likes, and differently each time it is asked.  What it announced about the
arrays of one construction is known from the questions that were asked: a watched source answers as the
source it watches and notes each layout with the path it was asked for.

Watching changes nothing: a step of construction from a watched source is, without the notes, the step
from the source itself.  The notes are read off the state that the step leaves.

Main statement: `Source.constructArray_watched`.
-/
import RuntimeBridge.Proofs.Wire.Lockstep
namespace RuntimeBridge

/-- The layouts that a source announced, by path, in the order in which it was asked. -/
abbrev Announcements := List (IndexPath × ArrayMetadata)

variable {σ β : Type}

/-! ## 1. Watching -/

/-- Note an announced layout. -/
def announce (path : IndexPath) : Except BridgeError ArrayMetadata → Announcements
  | .ok layout => [(path, layout)]
  | .error _ => []

/-- The source, with notes of the layouts that it announces. -/
def Source.watched (src : Source σ) : Source (σ × Announcements) where
  typeInfo path s := ((src.typeInfo path s.1).1, (src.typeInfo path s.1).2, s.2)
  arrayMetadata path info s :=
    ((src.arrayMetadata path info s.1).1, (src.arrayMetadata path info s.1).2,
      s.2 ++ announce path (src.arrayMetadata path info s.1).1)
  scalar path tag s := ((src.scalar path tag s.1).1, (src.scalar path tag s.1).2, s.2)
  text path tag s := ((src.text path tag s.1).1, (src.text path tag s.1).2, s.2)
  handle path s := ((src.handle path s.1).1, (src.handle path s.1).2, s.2)
  callable path s := ((src.callable path s.1).1, (src.callable path s.1).2, s.2)
  fill path a w s :=
    let f := src.fill path a w s.1
    ⟨f.outcome, f.array, f.world, f.state, s.2⟩

/-- A step of construction with notes that it does not touch. -/
def Built.noting (r : Built σ β) (notes : Announcements) : Built (σ × Announcements) β :=
  ⟨r.outcome, r.built, r.world, r.state, notes⟩

/-- A step of construction without the notes. -/
def Built.unwatched (r : Built (σ × Announcements) β) : Built σ β :=
  ⟨r.outcome, r.built, r.world, r.state.1⟩

/-! ## 2. Watching changes nothing -/

theorem World.unseen_eq : World.Unseen Eq where
  freed _ := by rintro rfl; rfl
  offered _ := by rintro rfl; exact ⟨rfl, rfl⟩
  exported _ := by rintro rfl; exact ⟨rfl, rfl⟩

theorem Built.unwatched_eq {r : Built (σ × Announcements) β} {r' : Built σ β}
    (alike : r.Alike Eq (fun s s' => s.1 = s') r') : r.unwatched = r' := by
  obtain ⟨outcome, built, w, s⟩ := r
  obtain ⟨outcome', built', w', s'⟩ := r'
  obtain ⟨rfl, rfl, rfl, rfl⟩ := alike
  rfl

namespace Source

variable (src : Source σ)

theorem resolveType_watched (path : IndexPath) (declared : Option TypeInfo) (s : σ × Announcements) :
    src.watched.resolveType path declared s =
      ((src.resolveType path declared s.1).1, (src.resolveType path declared s.1).2, s.2) := by
  cases declared with
  | none => rfl
  | some info =>
    simp only [resolveType]
    split <;> rfl

/-- A watched source announces nothing where a leaf is asked for. -/
theorem leavesAlike_watched (notes : Announcements) :
    LeavesAlike (fun s s' => s = (s', notes)) src.watched src where
  scalar _ _ := by rintro rfl; exact ⟨rfl, rfl⟩
  text _ _ := by rintro rfl; exact ⟨rfl, rfl⟩
  handle _ := by rintro rfl; exact ⟨rfl, rfl⟩
  callable _ := by rintro rfl; exact ⟨rfl, rfl⟩

/-- A watched source answers as the source does. -/
theorem alike_watched : Alike Eq (fun s s' => s.1 = s') src.watched src where
  scalar _ _ := by rintro rfl; exact ⟨rfl, rfl⟩
  text _ _ := by rintro rfl; exact ⟨rfl, rfl⟩
  handle _ := by rintro rfl; exact ⟨rfl, rfl⟩
  callable _ := by rintro rfl; exact ⟨rfl, rfl⟩
  typeInfo _ := by rintro rfl; exact ⟨rfl, rfl⟩
  arrayMetadata _ _ := by rintro rfl; exact ⟨rfl, rfl⟩
  fill _ _ := by rintro rfl rfl; exact ⟨rfl, rfl, rfl, rfl⟩

/-- A leaf announces nothing. -/
theorem constructLeaf_watched (path : IndexPath) (kind : BaseKind) (cell : Cell) (w : World)
    (s : σ × Announcements) :
    src.watched.constructLeaf path kind cell w s =
      (src.constructLeaf path kind cell w s.1).noting s.2 := by
  have alike := (src.leavesAlike_watched s.2).constructLeaf World.unseen_eq (Eq.refl w)
    (Eq.refl s) path kind cell
  generalize src.watched.constructLeaf path kind cell w s = r at alike ⊢
  obtain ⟨outcome, built, w, t⟩ := r
  obtain ⟨rfl, rfl, rfl, rfl⟩ := alike
  rfl

/-- **Watching changes nothing** of a construction. -/
theorem constructArray_watched (depth : Nat) (a : CellArray) (declared : List TypeInfo) (w : World)
    (s : σ × Announcements) :
    (src.watched.constructArray depth a declared w s).unwatched =
      src.constructArray depth a declared w s.1 :=
  Built.unwatched_eq (src.alike_watched.constructArray World.unseen_eq depth a declared rfl rfl)

/-- What a source announced while the cells of an array were constructed. -/
def announced (depth : Nat) (a : CellArray) (declared : List TypeInfo) (w : World) (s : σ) :
    Announcements :=
  (src.watched.constructArray depth a declared w (s, [])).state.2

end Source

end RuntimeBridge
