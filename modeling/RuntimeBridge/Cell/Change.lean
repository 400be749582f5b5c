/-
# Changes of a cell

What may be done to a cell, and to the elements of the array it holds, to any depth.  A change that
is refused leaves the cell as it was.
-/
import RuntimeBridge.Cell.Array
namespace RuntimeBridge

inductive CellChange where
  | free
  | setScalar (s : Scalar)
  | setText (width : Width) (s : String)
  /-- Register an object and put its handle into the cell. -/
  | setObject (o : Object)
  | setHandle (r : HandleRecord)
  /-- Put the record of a callable into the cell; a function gets an export of its own. -/
  | setCallable (c : Callable)
  /-- Put an array of null cells into the cell. -/
  | setArray (leaf : TypeTag) (length : Nat) (dimensions : Int)
  /-- Put a cell made elsewhere in place of this one. -/
  | put (c : Cell)
  /-- Change element `k` of the array. -/
  | item (k : Nat) (change : CellChange)

/-- Why a change is refused. -/
inductive ChangeError where
  | interiorNul
  | notAnArray
  | halted (h : Halt)

/-- How a change went, the cell afterwards, and the process. -/
structure Changed where
  outcome : Except ChangeError Unit
  cell : Cell
  world : World

namespace Cell

/-- Element `k` of an array cell. -/
def item? (c : Cell) (k : Nat) : Except ChangeError Cell :=
  match c.items? with
  | none => .error .notAnArray
  | some items =>
    match ({ cells := items } : CellArray).cellAt k with
    | .ok item => .ok item
    | .error halt => .error (.halted halt)

/-- The cell that indices lead to through arrays. -/
def follow (c : Cell) : List Nat → Except ChangeError Cell
  | [] => .ok c
  | k :: rest => c.item? k >>= fun item => item.follow rest

end Cell

namespace CellChange

/-- The change of the cell that indices lead to through arrays. -/
def under (path : List Nat) (change : CellChange) : CellChange :=
  path.foldr item change

/-- A cell that was filled. -/
def done (result : Cell × World) : Changed := ⟨.ok (), result.1, result.2⟩

/-- Change a cell. -/
def apply : CellChange → Cell → World → Changed
  | free, c, w => done (c.free w)
  | setScalar s, c, w => done (c.setScalar s w)
  | setText width s, c, w =>
    match c.setText? width s w with
    | some result => done result
    | none => ⟨.error .interiorNul, c, w⟩
  | setObject o, c, w =>
    let (r, w) := w.localHandle o
    done (c.setHandle r w)
  | setHandle r, c, w => done (c.setHandle r w)
  | setCallable f, c, w =>
    match f.toRecord w with
    | (.ok r, w) => done (c.setCallable r w)
    | (.error e, w) => ⟨.error (.halted (.error e)), c, w⟩
  | setArray leaf length dimensions, c, w => done (c.setArray leaf length dimensions w)
  | put new, c, w => done (c.replace new w)
  | item k change, c, w =>
    match c.item? k with
    | .error e => ⟨.error e, c, w⟩
    | .ok i =>
      let r := change.apply i w
      ⟨r.outcome, c.updateItem k r.cell, r.world⟩

end CellChange

end RuntimeBridge
