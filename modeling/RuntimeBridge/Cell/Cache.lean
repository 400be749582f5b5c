/-
# The cell cache

Short-lived buffers borrow their cells from a cache of fixed capacity, block after block.  A block
is returned to the top of the cache if it lies there; blocks below wait until nothing is borrowed
any more, and then the whole cache is free again.
-/
import RuntimeBridge.Error.Basic
namespace RuntimeBridge

/-- Cells of a cache unless set otherwise. -/
def defaultCacheCells : Nat := 100

/-- A run of cells: the first one, and how many. -/
structure CacheBlock where
  start : Nat
  count : Nat
  deriving DecidableEq, Repr

/-- Octets that a cell takes: its tag, its payload, and whether it owns that. -/
def cellOctets : Nat := 24

structure CellCache where
  capacity : Nat
  /-- The first cell that was never borrowed, or is back at the top. -/
  next : Nat := 0
  /-- Blocks borrowed at present. -/
  live : Nat := 0
  deriving DecidableEq, Repr

namespace CellCache

/-- A cache of a capacity, all of whose cells are made at once. -/
def ofCapacity (capacity : Nat) : Outcome CellCache := do
  reserve capacity cellOctets
  return { capacity }

/-- Borrow `count` cells in a row, if there are so many left. -/
def alloc? (c : CellCache) (count : Nat) : Option (CacheBlock × CellCache) :=
  if count = 0 ∨ c.capacity < c.next + count then none
  else some (⟨c.next, count⟩, { c with next := c.next + count, live := c.live + 1 })

/-- Return a block. -/
def release (c : CellCache) (b : CacheBlock) : CellCache :=
  let live := c.live - 1
  let next := if b.start + b.count = c.next then c.next - b.count else c.next
  { c with next := if live = 0 then 0 else next, live }

/-- The first cell of the block is one of the cache. -/
def owns (c : CellCache) (b : CacheBlock) : Bool :=
  b.start < c.capacity

def remaining (c : CellCache) : Nat :=
  c.capacity - c.next

/-- A cache of another capacity, unless blocks are borrowed or the capacity is the same. -/
def resize (c : CellCache) (capacity : Nat) : Outcome CellCache :=
  if c.capacity = capacity ∨ c.live ≠ 0 then .ok c else ofCapacity capacity

end CellCache

end RuntimeBridge
