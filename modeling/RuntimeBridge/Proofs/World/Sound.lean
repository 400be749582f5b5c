/-
# Sound states of a process

Two facts hold of every state that the operations of a process lead to: a cache from which nothing is
borrowed is free from its first cell on, and something lies at every address that is noted.  Registering
and exporting keep them (`World.Sound`); only who releases what was made for a cell, and leaves the cell
behind, breaks the second one.
-/
import RuntimeBridge.Proofs.World.Freeing
namespace RuntimeBridge

/-! ## 1. Caches -/

namespace CellCache

/-- If nothing is borrowed, all cells are free. -/
def Sound (c : CellCache) : Prop :=
  c.live = 0 → c.next = 0

theorem sound_alloc? {c c' : CellCache} {count : Nat} {b : CacheBlock}
    (borrowed : c.alloc? count = some (b, c')) : c'.Sound := by
  rw [alloc?] at borrowed
  split at borrowed
  · simp at borrowed
  · obtain ⟨-, rfl⟩ := Prod.mk.inj (Option.some.inj borrowed)
    intro none_live
    simp at none_live

theorem sound_release (c : CellCache) (b : CacheBlock) : (c.release b).Sound := by
  intro none_live
  have live : c.live - 1 = 0 := none_live
  simp [release, live]

/-- **The last block borrowed is the first one returned**, and then the cache is as it was. -/
theorem release_alloc? {c c' : CellCache} (sound : c.Sound) {count : Nat} {b : CacheBlock}
    (borrowed : c.alloc? count = some (b, c')) : c'.release b = c := by
  rw [alloc?] at borrowed
  split at borrowed
  · simp at borrowed
  · obtain ⟨rfl, rfl⟩ := Prod.mk.inj (Option.some.inj borrowed)
    obtain ⟨capacity, next, live⟩ := c
    simp only [release, if_true, Nat.add_sub_cancel]
    congr 1
    split
    next none_live => exact (sound none_live).symm
    next => rfl

end CellCache

/-! ## 2. States -/

namespace World

structure Sound (w : World) : Prop where
  cache : w.cache.Sound
  noted : ∀ a ∈ w.cellExports, a ∈ w.taken

theorem sound_start : ({} : World).Sound where
  cache := fun _ => rfl
  noted := by simp

namespace Sound

variable {w : World}

/-- What the two facts do not mention may change, and more may lie in memory. -/
theorem of_same {w' : World} (sound : w.Sound) (cache : w'.cache = w.cache)
    (exports : w'.cellExports = w.cellExports)
    (held : ∀ a ∈ w.cellExports, a ∈ w.taken → a ∈ w'.taken) : w'.Sound where
  cache := cache ▸ sound.cache
  noted := by
    intro a noted
    rw [exports] at noted
    exact held a noted (sound.noted a noted)

theorem registerObject (sound : w.Sound) (o : Object) : (w.registerObject o).2.Sound :=
  sound.of_same rfl rfl fun _ _ => id

theorem newObject (sound : w.Sound) (content : ObjectContent) : (w.newObject content).2.Sound :=
  sound.of_same rfl rfl fun _ _ => id

theorem exportFunction (sound : w.Sound) (f : NativeFunction) : (w.exportFunction f).2.Sound :=
  sound.of_same rfl rfl fun _ _ => List.mem_cons_of_mem _

theorem exportForCell (sound : w.Sound) (f : NativeFunction) : (w.exportForCell f).2.Sound where
  cache := sound.cache
  noted := by
    intro a noted
    rcases List.mem_cons.mp noted with rfl | noted
    · exact List.mem_cons_self
    · exact List.mem_cons_of_mem _ (sound.noted a noted)

end Sound

end World

end RuntimeBridge
