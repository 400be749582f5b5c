/-
# Blocks on loan

A cache lends blocks from its top and knows of them only how many there are and where the top is.
Blocks may come back in any order: one that does not lie on top leaves a hole, which is free again
only when nothing is lent any more.  What keeps the holes from being lent twice is a relation between
the cache and the blocks that were not given back yet (`CellCache.Lent`): they lie apart, below the
top.  Lending, giving back and another capacity keep it.

Main statements: `Lent.alloc?` and `Lent.release`, one step each; `read_store`, a block holds what was
stored in it, and `read_store_of_apart`, whatever is stored in blocks apart from it.
-/
import RuntimeBridge.Proofs.Call.Buffers
import RuntimeBridge.Proofs.Call.Exported
namespace RuntimeBridge

/-! ## 1. Blocks -/

namespace CacheBlock

/-- The cell is one of the block. -/
def Holds (b : CacheBlock) (i : Nat) : Prop :=
  b.start ≤ i ∧ i < b.start + b.count

instance (b : CacheBlock) (i : Nat) : Decidable (b.Holds i) :=
  inferInstanceAs (Decidable (_ ∧ _))

/-- No cell is in both blocks. -/
def Apart (a b : CacheBlock) : Prop :=
  ∀ i, a.Holds i → ¬ b.Holds i

variable {a b : CacheBlock}

theorem Apart.symm (apart : a.Apart b) : b.Apart a :=
  fun i inB inA => apart i inA inB

theorem apart_of_le (below : b.start + b.count ≤ a.start) : a.Apart b := by
  intro i inA inB
  simp only [Holds] at inA inB
  omega

/-- Of two blocks without a cell in common, one lies below the other. -/
theorem Apart.below_or_above (apart : a.Apart b) (nonemptyA : 0 < a.count)
    (nonemptyB : 0 < b.count) :
    a.start + a.count ≤ b.start ∨ b.start + b.count ≤ a.start := by
  have shared := apart (max a.start b.start)
  simp only [Holds] at shared
  omega

/-- The cells of the block, as some memory has them. -/
def read (b : CacheBlock) (memory : Nat → Cell) : List Cell :=
  (List.range' b.start b.count).map memory

/-- The memory with other cells in the block. -/
def store (b : CacheBlock) (cells : List Cell) (memory : Nat → Cell) : Nat → Cell := fun i =>
  if b.Holds i then cells[i - b.start]?.getD (memory i) else memory i

theorem read_congr {memory later : Nat → Cell} (same : ∀ i, b.Holds i → memory i = later i) :
    b.read memory = b.read later := by
  refine List.map_congr_left fun i inRange => same i ?_
  have := List.mem_range'_1.mp inRange
  exact ⟨this.1, this.2⟩

/-- **A block holds what was stored in it.** -/
theorem read_store {cells : List Cell} (fits : cells.length = b.count) (memory : Nat → Cell) :
    b.read (b.store cells memory) = cells := by
  refine List.ext_getElem (by simp [read, fits]) fun k inRead inCells => ?_
  have held : b.Holds (b.start + k) := ⟨by omega, by omega⟩
  have back : b.start + k - b.start = k := by omega
  simp only [read, List.getElem_map, List.getElem_range', Nat.one_mul, store, if_pos held, back]
  rw [List.getElem?_eq_getElem inCells, Option.getD_some]

/-- What is stored elsewhere does not show in a block. -/
theorem read_store_of_apart (apart : a.Apart b) (cells : List Cell) (memory : Nat → Cell) :
    b.read (a.store cells memory) = b.read memory := by
  refine read_congr fun i inB => ?_
  rw [store, if_neg (fun inA => apart i inA inB)]

end CacheBlock

/-! ## 2. The cache and its blocks -/

namespace CellCache

/-- These are the blocks that were borrowed and not given back. -/
structure Lent (c : CellCache) (blocks : List CacheBlock) : Prop where
  nonempty : ∀ b ∈ blocks, 0 < b.count
  apart : blocks.Pairwise CacheBlock.Apart
  below : ∀ b ∈ blocks, b.start + b.count ≤ c.next
  inside : c.next ≤ c.capacity
  counted : c.live = blocks.length
  whole : blocks = [] → c.next = 0

theorem lent_new (capacity : Nat) : ({ capacity } : CellCache).Lent [] where
  nonempty := by simp
  apart := .nil
  below := by simp
  inside := Nat.zero_le _
  counted := rfl
  whole := fun _ => rfl

/-- There is room for as many cells as remain. -/
theorem alloc?_isSome_iff {c : CellCache} (inside : c.next ≤ c.capacity) (count : Nat) :
    (c.alloc? count).isSome ↔ 0 < count ∧ count ≤ c.remaining := by
  rw [alloc?, remaining]
  split <;> simp <;> omega

theorem alloc?_eq_some_iff {c c' : CellCache} {count : Nat} {b : CacheBlock} :
    c.alloc? count = some (b, c') ↔
      0 < count ∧ c.next + count ≤ c.capacity ∧ b = ⟨c.next, count⟩ ∧
        c' = { c with next := c.next + count, live := c.live + 1 } := by
  rw [alloc?]
  split
  · simp
    omega
  · simp only [Option.some.injEq, Prod.mk.injEq]
    constructor
    · rintro ⟨rfl, rfl⟩
      exact ⟨by omega, by omega, rfl, rfl⟩
    · rintro ⟨-, -, rfl, rfl⟩
      exact ⟨rfl, rfl⟩

/-- Give blocks back, one after the other. -/
def releaseAll (blocks : List CacheBlock) (c : CellCache) : CellCache :=
  blocks.foldl release c

theorem releaseAll_append (blocks more : List CacheBlock) (c : CellCache) :
    releaseAll (blocks ++ more) c = releaseAll more (releaseAll blocks c) :=
  List.foldl_append

theorem capacity_releaseAll (blocks : List CacheBlock) (c : CellCache) :
    (releaseAll blocks c).capacity = c.capacity := by
  induction blocks generalizing c with
  | nil => rfl
  | cons b blocks ih => exact ih (c.release b)

namespace Lent

variable {c c' : CellCache} {blocks : List CacheBlock} {b : CacheBlock}

theorem sound (lent : c.Lent blocks) : c.Sound := by
  intro none_live
  refine lent.whole (List.eq_nil_of_length_eq_zero ?_)
  rw [← lent.counted, none_live]

/-- A cache without loans is as new. -/
theorem eq_new (lent : c.Lent []) : c = { capacity := c.capacity } := by
  obtain ⟨capacity, next, live⟩ := c
  have top : next = 0 := lent.whole rfl
  have count : live = 0 := lent.counted
  rw [top, count]

theorem inside_of_mem (lent : c.Lent blocks) (mem : b ∈ blocks) :
    b.start + b.count ≤ c.capacity :=
  Nat.le_trans (lent.below b mem) lent.inside

/-- What is on top of a list of loans lies apart from the rest. -/
theorem apart_top {top : Option CacheBlock} {rest : List CacheBlock}
    (lent : c.Lent (top.toList ++ rest)) : ∀ b ∈ top, ∀ b' ∈ rest, b.Apart b' := by
  rintro b rfl
  exact (List.pairwise_cons.mp lent.apart).1

/-- The order of the loans does not matter. -/
theorem perm {others : List CacheBlock} (lent : c.Lent blocks) (same : blocks.Perm others) :
    c.Lent others where
  nonempty := fun b mem => lent.nonempty b (same.mem_iff.mpr mem)
  apart := (same.pairwise_iff fun apart => apart.symm).mp lent.apart
  below := fun b mem => lent.below b (same.mem_iff.mpr mem)
  inside := lent.inside
  counted := lent.counted.trans same.length_eq
  whole := fun nothing => lent.whole (List.Perm.eq_nil (nothing ▸ same))

/-- **A new block** lies above all others. -/
theorem alloc? (lent : c.Lent blocks) {count : Nat} (borrowed : c.alloc? count = some (b, c')) :
    c'.Lent (b :: blocks) := by
  obtain ⟨nonempty, fits, rfl, rfl⟩ := alloc?_eq_some_iff.mp borrowed
  refine ⟨?_, List.pairwise_cons.mpr ⟨?_, lent.apart⟩, ?_, fits, ?_, by simp⟩
  · exact List.forall_mem_cons.mpr ⟨nonempty, lent.nonempty⟩
  · exact fun other mem => CacheBlock.apart_of_le (lent.below other mem)
  · refine List.forall_mem_cons.mpr ⟨Nat.le_refl _, fun other mem => ?_⟩
    exact Nat.le_trans (lent.below other mem) (Nat.le_add_right _ _)
  · rw [List.length_cons, lent.counted]

/-- The others lie below the top once a block is back: one of them on the block would hang over the
old top. -/
theorem below_release (lent : c.Lent (b :: blocks)) (others : blocks ≠ []) :
    ∀ other ∈ blocks, other.start + other.count ≤ (c.release b).next := by
  intro other mem
  have some_live : c.live - 1 ≠ 0 := by
    have := List.length_pos_iff.mpr others
    have := lent.counted
    simp only [List.length_cons] at this
    omega
  have below := lent.below other (List.mem_cons_of_mem _ mem)
  simp only [CellCache.release, if_neg some_live]
  split
  case isFalse => exact below
  case isTrue top =>
    have apart := (List.pairwise_cons.mp lent.apart).1 other mem
    have nonempty := lent.nonempty other (List.mem_cons_of_mem _ mem)
    have := apart.below_or_above (lent.nonempty b List.mem_cons_self) nonempty
    omega

/-- **A block comes back**, whether or not it lies on top. -/
theorem release (lent : c.Lent (b :: blocks)) : (c.release b).Lent blocks := by
  have counted : (c.release b).live = blocks.length := by
    simp [CellCache.release, lent.counted]
  have shrinks : (c.release b).next ≤ c.next := by
    simp only [CellCache.release]
    split
    · exact Nat.zero_le _
    · split <;> omega
  refine ⟨fun other mem => lent.nonempty other (List.mem_cons_of_mem _ mem),
    (List.pairwise_cons.mp lent.apart).2, fun other mem => ?_, ?_, counted, fun nothing => ?_⟩
  · exact lent.below_release (List.ne_nil_of_mem mem) other mem
  · exact Nat.le_trans shrinks lent.inside
  · exact sound_release c b (by rw [counted, nothing]; rfl)

theorem releaseAll {more : List CacheBlock} (lent : c.Lent (blocks ++ more)) :
    (CellCache.releaseAll blocks c).Lent more := by
  induction blocks generalizing c with
  | nil => exact lent
  | cons b blocks ih => exact ih lent.release

end Lent

end CellCache

/-! ## 3. Another capacity -/

/-- **Another capacity**: nothing changes while blocks are lent, or if no memory holds the new cache;
else the cache is a new one of that capacity. -/
theorem World.setCacheCapacity_cases {w : World} {blocks : List CacheBlock}
    (lent : w.cache.Lent blocks) (cells : Nat) :
    let r := w.setCacheCapacity cells
    (blocks ≠ [] → r.1 = .ok () ∧ r.2.cache = w.cache) ∧
      (blocks = [] → r.1 = .ok () ∧ r.2.cache = { capacity := cells } ∨
        ∃ halt, reserve cells cellOctets = .error halt ∧ r.1 = .error halt ∧
          r.2.cache = w.cache) := by
  have live : blocks ≠ [] → w.cache.live ≠ 0 := by
    intro others
    rw [lent.counted]
    exact Nat.ne_of_gt (List.length_pos_iff.mpr others)
  refine ⟨fun others => ?_, fun nothing => ?_⟩
  · simp [setCacheCapacity, CellCache.resize, live others]
  · subst nothing
    have idle : w.cache.live = 0 := lent.counted
    by_cases same : w.cache.capacity = cells
    · refine .inl ⟨by simp [setCacheCapacity, CellCache.resize, same], ?_⟩
      have asNew := lent.eq_new
      rw [same] at asNew
      simpa [setCacheCapacity, CellCache.resize, same] using asNew
    · cases reserved : reserve cells cellOctets with
      | error halt =>
        refine .inr ⟨halt, rfl, ?_, ?_⟩ <;>
          simp [setCacheCapacity, CellCache.resize, same, idle, CellCache.ofCapacity, reserved, bind,
            Except.bind]
      | ok done =>
        refine .inl ⟨?_, ?_⟩ <;>
          simp [setCacheCapacity, CellCache.resize, same, idle, CellCache.ofCapacity, reserved, bind,
            Except.bind, pure, Except.pure]

/-! ## 4. Arrays and buffers -/

namespace CellArray

/-- **A new array** borrows a block of its length if it fits, and else leaves the cache alone. -/
theorem init_cases (length : Nat) (dimensions : Int) (preferCache : Bool) (w : World) :
    let r := init length dimensions preferCache w
    (∃ b, preferCache = true ∧ w.cache.alloc? length = some (b, r.2.cache) ∧ r.1.block = some b) ∨
      ((preferCache = true → w.cache.alloc? length = none) ∧ r.1.block = none ∧
        r.2.cache = w.cache) := by
  simp only [init]
  cases preferCache with
  | false => exact .inr ⟨by simp, rfl, rfl⟩
  | true =>
    simp only [if_true]
    cases borrowed : w.cache.alloc? length with
    | none => exact .inr ⟨fun _ => rfl, rfl, rfl⟩
    | some borrowing => exact .inl ⟨borrowing.1, trivial, rfl, rfl⟩

theorem capacity_init (length : Nat) (dimensions : Int) (preferCache : Bool) (w : World) :
    (init length dimensions preferCache w).2.cache.capacity = w.cache.capacity := by
  obtain ⟨b, -, borrowed, -⟩ | ⟨-, -, same⟩ := init_cases length dimensions preferCache w
  · rw [(CellCache.alloc?_eq_some_iff.mp borrowed).2.2.2]
  · rw [same]

theorem lent_init {w : World} {blocks : List CacheBlock} (lent : w.cache.Lent blocks) (length : Nat)
    (dimensions : Int) (preferCache : Bool) :
    let r := init length dimensions preferCache w
    r.2.cache.Lent (r.1.block.toList ++ blocks) := by
  intro r
  obtain ⟨b, -, borrowed, inCache⟩ | ⟨-, onHeap, same⟩ :=
    init_cases length dimensions preferCache w
  · rw [inCache]
    exact lent.alloc? borrowed
  · rw [onHeap, same]
    exact lent

/-- The array's block, if it has one, holds just its cells. -/
def KeptIn (a : CellArray) (memory : Nat → Cell) : Prop :=
  ∀ b, a.block = some b → b.read memory = a.cells

/-- The array's block, if it has one, is as long as the array. -/
def Fits (a : CellArray) : Prop :=
  ∀ b, a.block = some b → a.cells.length = b.count

/-- Store the cells of an array in its block. -/
def store (a : CellArray) (memory : Nat → Cell) : Nat → Cell :=
  match a.block with
  | some b => b.store a.cells memory
  | none => memory

theorem KeptIn.fits {a : CellArray} {memory : Nat → Cell} (kept : a.KeptIn memory) : a.Fits := by
  intro b inCache
  rw [← kept b inCache]
  simp [CacheBlock.read]

theorem Fits.keptIn_store {a : CellArray} (fits : a.Fits) (memory : Nat → Cell) :
    a.KeptIn (a.store memory) := by
  intro b inCache
  rw [store, inCache]
  exact CacheBlock.read_store (fits b inCache) memory

/-- Arrays whose blocks lie apart do not disturb each other. -/
theorem KeptIn.store {a other : CellArray} {memory : Nat → Cell} (kept : other.KeptIn memory)
    (apart : ∀ b ∈ a.block, ∀ b' ∈ other.block, b.Apart b') : other.KeptIn (a.store memory) := by
  intro b' inCache
  rw [CellArray.store]
  cases block : a.block with
  | none => exact kept b' inCache
  | some b => exact (CacheBlock.read_store_of_apart (apart b block b' inCache) _ _).trans (kept b' inCache)

theorem fits_init (length : Nat) (dimensions : Int) (preferCache : Bool) (w : World) :
    (init length dimensions preferCache w).1.Fits := by
  intro b inCache
  obtain ⟨b', -, borrowed, inCache'⟩ | ⟨-, onHeap, -⟩ :=
    init_cases length dimensions preferCache w
  · obtain ⟨-, -, rfl, -⟩ := CellCache.alloc?_eq_some_iff.mp borrowed
    rw [inCache', Option.some.injEq] at inCache
    rw [cells_init, List.length_replicate, ← inCache]
  · rw [onHeap] at inCache
    cases inCache

end CellArray

end RuntimeBridge
