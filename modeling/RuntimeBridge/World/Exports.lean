/-
# Exported functions

A function of this runtime is exported by registering it in the objects table and making a call
point that names its id.  An export lives until it is released by its call point, which then lies in
memory no longer.  An export that was made for one callable cell belongs to that cell: its address is
noted, and freeing the cell releases it.

A cell has the address of a call point, and what is released is what lies at that address when the cell
is freed.  Everybody else has the call point itself, which says the same as long as it is not released.
-/
import RuntimeBridge.World.Basic
namespace RuntimeBridge

/-! ## 1. Exporting and releasing -/

namespace World

/-- Export a function. -/
def exportFunction (w : World) (f : NativeFunction) : CallPoint × World :=
  let (handle, w) := w.registerObject (.ofFunction f)
  w.placePoint (.exported f.shape ⟨handle, f.params.length, f.retvals.length⟩)

/-- Export a function for one callable cell. -/
def exportForCell (w : World) (f : NativeFunction) : CallPoint × World :=
  let (point, w) := w.exportFunction f
  (point, { w with cellExports := point.address :: w.cellExports })

/-- The function behind a call point of this runtime that was not released, if it is still
registered. -/
def functionAt? (w : World) (p : CallPoint) : Option NativeFunction :=
  match p.target with
  | .exported _ context => (w.objects.resolve? context.handle).bind Object.function?
  | .remote _ => none

/-- Release an export.  No call point needs no release; one of another runtime is refused. -/
def releaseExport (w : World) : Option CallPoint → Except BridgeError Unit × World
  | none => (.ok (), w)
  | some p =>
    match (w.pointAt p).target with
    | .remote _ => (.error (.invocation "xcall was not created by this runtime"), w)
    | .exported _ context =>
      match (w.dropPoint p).releaseObject context.handle with
      | (.ok _, w) => (.ok (), w)
      | (.error e, w) => (.error (.handle e), w)

/-! ## 2. Freeing cells -/

/-- Release the export of a freed callable record, if its address is noted. -/
def releaseRecord (w : World) (r : CallableRecord) : World :=
  match r.point with
  | none => w
  | some p =>
    if w.cellExports.contains p.address then
      ({ w with cellExports := w.cellExports.filter fun a => a != p.address }.releaseExport
        (some p)).2
    else w

/-- Free what a cell owns. -/
def freeCell (w : World) (c : Cell) : World :=
  c.ownedRecords.foldl releaseRecord w

/-- Free what some cells own, in order. -/
def freeCells (w : World) (cs : List Cell) : World :=
  cs.foldl freeCell w

theorem freeCells_cons (w : World) (c : Cell) (cs : List Cell) :
    w.freeCells (c :: cs) = (w.freeCell c).freeCells cs := rfl

theorem freeCell_null (w : World) : w.freeCell .null = w := rfl

end World

/-! ## 3. Callables on the wire -/

/-- The wire record of a callable.  A function of this runtime gets an export of its own; nothing
is exported for a signature that is too long. -/
def Callable.toRecord (c : Callable) (w : World) : Except BridgeError CallableRecord × World :=
  let params := c.params.map TypeInfo.wireTag
  let retvals := c.retvals.map TypeInfo.wireTag
  match signatureCount? params.length, signatureCount? retvals.length with
  | .error e, _ => (.error (.marshal e), w)
  | _, .error e => (.error (.marshal e), w)
  | .ok _, .ok _ =>
    match c with
    | .native f =>
      let (point, w) := w.exportForCell f
      (.ok ⟨some point, params, retvals⟩, w)
    | .foreign c => (.ok ⟨some c.point, params, retvals⟩, w)

/-- The callable of a wire record: the function itself for an export that is still registered. -/
def CallableRecord.callable? (r : CallableRecord) (w : World) : Option Callable :=
  r.point.map fun p =>
    match w.functionAt? p with
    | some f => .native f
    | none => .foreign ⟨p, r.params.map .ofTag, r.retvals.map .ofTag⟩

end RuntimeBridge
