/-
# The state of a process

Everything that calls and conversions share and change: the objects table, the call points that lie in
memory, those of them that are owned by cells, the cell cache of the thread, the settings, the counters,
and what is known about released foreign handles.  One supply of numbers gives every new thing its
identity.

Addresses are no identities.  An allocator places call points, and may give the address of one that was
released to the next one; all that is known of it is that it places nothing where something lies.
-/
import RuntimeBridge.Value.Basic
import RuntimeBridge.Error.Basic
import RuntimeBridge.Cell.Basic
import RuntimeBridge.Cell.Cache
import RuntimeBridge.Handle.Table
namespace RuntimeBridge

/-- Elements looked at when the type of an array of handles is sampled, unless set otherwise. -/
def defaultHandleSamples : Nat := 3

/-- What places call points in memory: an address for the moment and the addresses that are taken. -/
structure Allocator where
  place : Nat → List Nat → Nat
  vacant : ∀ moment taken, place moment taken ∉ taken

/-- The first place behind all that is taken, from a least one on. -/
def Allocator.behind (least : Nat → Nat) : Allocator where
  place moment taken := taken.foldr (fun a next => max (a + 1) next) (least moment)
  vacant moment taken := by
    have below : ∀ a ∈ taken, a < taken.foldr (fun a next => max (a + 1) next) (least moment) := by
      induction taken with
      | nil => simp
      | cons b taken ih =>
        intro a mem
        rw [List.foldr_cons]
        rcases List.mem_cons.mp mem with rfl | mem
        · omega
        · have := ih a mem
          omega
    exact fun mem => Nat.lt_irrefl _ (below _ mem)

/-- An allocator that gives every moment a place of its own. -/
def Allocator.counting : Allocator := .behind fun moment => moment

/-- An allocator that gives a place again as soon as nothing lies behind it. -/
def Allocator.stacking : Allocator := .behind fun _ => 0

structure World where
  objects : HandleTable Object := .empty
  allocator : Allocator := .counting
  /-- The call points that lie in memory. -/
  points : List CallPoint := []
  /-- Addresses of call points that were made for one cell each and go with it. -/
  cellExports : List Nat := []
  /-- The next identity to be given out. -/
  supply : Nat := 0
  cache : CellCache := { capacity := defaultCacheCells }
  /-- Cells of the cache were used or its capacity was set; before that it is still to be made. -/
  cacheMade : Bool := false
  /-- Capacity of the cell caches that are still to be made. -/
  threadCells : Nat := defaultCacheCells
  handleSamples : Nat := defaultHandleSamples
  pinDepth : Nat := 0
  calls : Nat := 0
  callErrors : Nat := 0
  /-- Tokens of released foreign handles. -/
  released : List Nat := []
  /-- Records that were given back to their owners. -/
  callbacks : List HandleRecord := []
  /-- How often each function ran, by identity. -/
  runs : List (Nat × Nat) := []

namespace World

/-! ## 1. Identities -/

/-- A number that was never given out. -/
def fresh (w : World) : Nat × World :=
  (w.supply, { w with supply := w.supply + 1 })

/-- A new object. -/
def newObject (w : World) (content : ObjectContent) : Object × World :=
  (.mk w.supply content, { w with supply := w.supply + 1 })

/-- A new handle to an object of another runtime. -/
def newForeign (w : World) (record : HandleRecord) : ForeignHandle × World :=
  (⟨w.supply, record⟩, { w with supply := w.supply + 1 })

/-! ## 2. Memory -/

/-- The addresses at which call points lie. -/
def taken (w : World) : List Nat :=
  w.points.map CallPoint.address

/-- A new call point, at an address where nothing lies. -/
def placePoint (w : World) (target : CallTarget) : CallPoint × World :=
  let p : CallPoint := ⟨w.allocator.place w.supply w.taken, target⟩
  (p, { w with points := p :: w.points, supply := w.supply + 1 })

/-- The call point that lies at the address of a call point.  Nobody may ask for one that lies there no
longer; then it counts as what it was. -/
def pointAt (w : World) (p : CallPoint) : CallPoint :=
  (w.points.find? fun q => q.address == p.address).getD p

/-- Nothing lies any longer at the address of a call point. -/
def dropPoint (w : World) (p : CallPoint) : World :=
  { w with points := w.points.filter fun q => q.address != p.address }

/-! ## 3. Objects -/

/-- Register an object. -/
def registerObject (w : World) (o : Object) : Nat × World :=
  let (id, objects) := w.objects.register o
  (id, { w with objects })

/-- Register an object and make its handle record. -/
def localHandle (w : World) (o : Object) : HandleRecord × World :=
  let (id, w) := w.registerObject o
  (.ofLocal id, w)

/-- The object that a local handle record stands for. -/
def resolveLocal (w : World) (r : HandleRecord) : Except HandleError Object :=
  match w.objects.resolve? r.handle with
  | some o => .ok o
  | none => .error (.notFound r.handle)

/-- Release an id of the objects table. -/
def releaseObject (w : World) (id : Nat) : Except HandleError Object × World :=
  match w.objects.release id with
  | (some o, objects) => (.ok o, { w with objects })
  | (none, _) => (.error (.notFound id), w)

/-! ## 4. Foreign handles -/

def isReleased (w : World) (h : ForeignHandle) : Bool :=
  w.released.contains h.token

/-- Call the release callback of a record, with the record. -/
def runHook (w : World) (hook : ReleaseHook) (r : HandleRecord) : World :=
  match hook with
  | .objectsTable => (w.releaseObject r.handle).2
  | .owner => { w with callbacks := w.callbacks ++ [r] }

/-- Give a foreign object back to its owner. -/
def releaseForeign (w : World) (h : ForeignHandle) : Except HandleError Unit × World :=
  match h.record.release with
  | none => (.error (.noReleaser h.record.runtime), w)
  | some hook =>
    if w.isReleased h then (.error .alreadyReleased, w)
    else (.ok (), { w with released := h.token :: w.released }.runHook hook h.record)

/-! ## 5. Settings -/

/-- Set the capacity of cell caches: of new threads, and of this one if nothing is borrowed.  If no
memory can hold so large a cache, this thread keeps the one that it has. -/
def setCacheCapacity (w : World) (cells : Nat) : Outcome Unit × World :=
  let w := { w with threadCells := cells }
  match w.cache.resize cells with
  | .ok cache => (.ok (), { w with cache, cacheMade := true })
  | .error halt => (.error halt, w)

/-- Make sure that there is a cache where so many cells are needed: one that is still to be made can be
too large for any memory. -/
def needCells (w : World) (cells : Nat) : Outcome Unit :=
  if w.cacheMade || cells == 0 then .ok () else reserve w.threadCells cellOctets

/-- Set the number of sampled elements, at least one. -/
def setHandleSamples (w : World) (samples : Nat) : World :=
  { w with handleSamples := max samples 1 }

/-! ## 6. Pins and counters -/

def pin (w : World) : World := { w with pinDepth := w.pinDepth + 1 }

def unpin (w : World) : World := { w with pinDepth := w.pinDepth - 1 }

def isPinned (w : World) : Bool := w.pinDepth > 0

/-- Count a call, and an error if it failed. -/
def recordCall (w : World) (failed : Bool) : World :=
  { w with calls := w.calls + 1, callErrors := if failed then w.callErrors + 1 else w.callErrors }

/-- How often a function ran. -/
def runsOf (w : World) (identity : Nat) : Nat :=
  (w.runs.lookup identity).getD 0

/-- Count a run of a function. -/
def recordRun (w : World) (identity : Nat) : World :=
  { w with runs := (identity, w.runsOf identity + 1) :: w.runs.filter fun e => e.1 != identity }

end World

end RuntimeBridge
