/-
# Cell arrays and call buffers

The cells of one call lie in two arrays, parameters and return values.  Their cells are borrowed
from the thread's cache when they fit there.  Freeing a buffer frees what its cells own and gives
the blocks back, return values first, so that the last block borrowed is the first one returned.
-/
import RuntimeBridge.Cell.Setters
namespace RuntimeBridge

/-! ## 1. Cell arrays -/

structure CellArray where
  cells : List Cell := []
  dimensions : Int := mixedDimensions
  /-- The block of the cache that the cells lie in. -/
  block : Option CacheBlock := none

namespace CellArray

def length (a : CellArray) : Nat := a.cells.length

def isEmpty (a : CellArray) : Bool := a.length == 0

/-- The cells lie in the cache. -/
def cached (a : CellArray) : Bool := a.block.isSome

/-- An array of null cells, in the cache if it is preferred and has room for them. -/
def init (length : Nat) (dimensions : Int) (preferCache : Bool) (w : World) : CellArray × World :=
  let cells := List.replicate length Cell.null
  let w := { w with cacheMade := w.cacheMade || preferCache && length != 0 }
  match (if preferCache then w.cache.alloc? length else none) with
  | some (block, cache) => ({ cells, dimensions, block := some block }, { w with cache })
  | none => ({ cells, dimensions }, w)

/-- The text of the panic at an index out of range. -/
def outOfRange (a : CellArray) (index : Nat) : Halt :=
  .panic (.text ("cell index " ++ index.repr ++ " out of range for array of length " ++
    a.length.repr))

/-- The cell at an index; an index out of range is a panic. -/
def cellAt (a : CellArray) (index : Nat) : Outcome Cell :=
  match a.cells[index]? with
  | some c => .ok c
  | none => .error (a.outOfRange index)

/-- The array with another cell at an index. -/
def setCell (a : CellArray) (index : Nat) (c : Cell) : CellArray :=
  { a with cells := a.cells.set index c }

/-- Put cells in place of those from an index on, as far as there are such; the first cell without a
place is a panic. -/
def writeFrom (a : CellArray) (index : Nat) : List Cell → Outcome Unit × CellArray
  | [] => (.ok (), a)
  | c :: cs =>
    match a.cellAt index with
    | .ok _ => (a.setCell index c).writeFrom (index + 1) cs
    | .error halt => (.error halt, a)

/-- Free what the cells own, and the cells themselves. -/
def freeCells (a : CellArray) (w : World) : CellArray × World :=
  let w := w.freeCells a.cells
  let w :=
    match a.block with
    | some b => { w with cache := w.cache.release b }
    | none => w
  ({ a with cells := [], block := none }, w)

/-- The tag that all cells share. -/
def commonTag (a : CellArray) : TypeTag :=
  Cell.commonTag a.cells

end CellArray

/-! ## 2. Call buffers -/

structure CallBuffer where
  params : CellArray
  retvals : CellArray

namespace CallBuffer

/-- A buffer for so many parameters and return values. -/
def alloc (params retvals : Nat) (w : World) : CallBuffer × World :=
  let (params, w) := CellArray.init params 1 true w
  let (retvals, w) := CellArray.init retvals 1 true w
  (⟨params, retvals⟩, w)

/-- Free a buffer. -/
def free (b : CallBuffer) (w : World) : World :=
  let w := (b.retvals.freeCells w).2
  (b.params.freeCells w).2

end CallBuffer

end RuntimeBridge
