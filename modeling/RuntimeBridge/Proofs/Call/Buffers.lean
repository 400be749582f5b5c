/-
# Buffers come and go

Allocating a buffer borrows its blocks from the cache and changes nothing else, and freeing it frees the
records in its cells and gives the blocks back.  Blocks come back in the opposite order, so a buffer
that is freed where it was allocated leaves the cache as it was (`CallBuffer.giveBack_alloc`).
-/
import RuntimeBridge.Proofs.World.Sound
namespace RuntimeBridge

/-! ## 1. Arrays -/

namespace CellArray

theorem init_frame (length : Nat) (dimensions : Int) (preferCache : Bool) (w : World) :
    (init length dimensions preferCache w).2 =
      { w with
        cache := (init length dimensions preferCache w).2.cache
        cacheMade := (init length dimensions preferCache w).2.cacheMade } := by
  simp only [init]
  split <;> rfl

/-- The cache without a block, if there is one. -/
def giveBack (block : Option CacheBlock) (c : CellCache) : CellCache :=
  match block with
  | some b => c.release b
  | none => c

/-- The block of a new array is on top of the cache. -/
theorem giveBack_init {w : World} (sound : w.cache.Sound) (length : Nat) (dimensions : Int)
    (preferCache : Bool) :
    giveBack (init length dimensions preferCache w).1.block
      (init length dimensions preferCache w).2.cache = w.cache := by
  simp only [init]
  cases preferCache with
  | false => rfl
  | true =>
    simp only [if_true]
    cases borrowed : w.cache.alloc? length with
    | none => rfl
    | some borrowing =>
      obtain ⟨b, c⟩ := borrowing
      exact CellCache.release_alloc? sound borrowed

theorem sound_init {w : World} (sound : w.Sound) (length : Nat) (dimensions : Int)
    (preferCache : Bool) : (init length dimensions preferCache w).2.Sound := by
  have noted := sound.noted
  refine ⟨?_, by rwa [init_frame]⟩
  simp only [init]
  split
  case h_1 block c borrowed =>
    cases preferCache with
    | false => simp at borrowed
    | true => exact CellCache.sound_alloc? borrowed
  case h_2 => exact sound.cache

theorem freeCells_eq (a : CellArray) (w : World) :
    (a.freeCells w).2 =
      { w.releaseRecords (Cell.ownedRecordsOf a.cells) with cache := giveBack a.block w.cache } := by
  simp only [freeCells, World.freeCells_eq, giveBack]
  rw [World.releaseRecords_frame]
  cases a.block <;> rfl

end CellArray

/-! ## 2. Buffers -/

namespace CallBuffer

/-- The records that go with a buffer, in the order in which they are freed. -/
def records (b : CallBuffer) : List CallableRecord :=
  Cell.ownedRecordsOf b.retvals.cells ++ Cell.ownedRecordsOf b.params.cells

/-- The cache without the blocks of a buffer. -/
def giveBack (b : CallBuffer) (c : CellCache) : CellCache :=
  CellArray.giveBack b.params.block (CellArray.giveBack b.retvals.block c)

theorem alloc_frame (params retvals : Nat) (w : World) :
    (alloc params retvals w).2 =
      { w with
        cache := (alloc params retvals w).2.cache
        cacheMade := (alloc params retvals w).2.cacheMade } := by
  simp only [alloc]
  rw [CellArray.init_frame, CellArray.init_frame]

theorem sound_alloc {w : World} (sound : w.Sound) (params retvals : Nat) :
    (alloc params retvals w).2.Sound :=
  CellArray.sound_init (CellArray.sound_init sound params 1 true) retvals 1 true

/-- **Freeing a buffer** frees its records and gives its blocks back. -/
theorem free_eq (b : CallBuffer) (w : World) :
    b.free w = { w.releaseRecords b.records with cache := b.giveBack w.cache } := by
  simp only [free, CellArray.freeCells_eq, records, giveBack, World.releaseRecords_append,
    World.releaseRecords_setCache]

/-- **A buffer leaves the cache as it was**, whatever was done with its cells. -/
theorem giveBack_alloc {w : World} (sound : w.Sound) (params retvals : Nat) {b : CallBuffer}
    (paramsBlock : b.params.block = (alloc params retvals w).1.params.block)
    (retvalsBlock : b.retvals.block = (alloc params retvals w).1.retvals.block) :
    b.giveBack (alloc params retvals w).2.cache = w.cache := by
  rw [giveBack, paramsBlock, retvalsBlock]
  have middle := CellArray.sound_init sound params 1 true
  have last := CellArray.giveBack_init middle.cache retvals 1 true
  have first := CellArray.giveBack_init sound.cache params 1 true
  simp only [alloc]
  rw [last, first]

end CallBuffer

end RuntimeBridge
