/-
# Handle records

A handle stands for an object of some runtime.  On the wire it is a record: the handle itself,
which only its runtime understands, the runtime's id, and the callback that releases the object.
-/
namespace RuntimeBridge

/-- Id of this runtime in handle records. -/
def localRuntimeId : Nat := 0x52555354

/-- Release callbacks: the one of this runtime's objects table, or one that belongs to the owner of
the object. -/
inductive ReleaseHook where
  | objectsTable
  | owner
  deriving DecidableEq, Repr

structure HandleRecord where
  handle : Nat
  runtime : Nat
  release : Option ReleaseHook
  deriving DecidableEq, Repr

namespace HandleRecord

/-- The record of no object. -/
def nullLocal : HandleRecord := ⟨0, localRuntimeId, none⟩

/-- The record of the object registered here under `id`. -/
def ofLocal (id : Nat) : HandleRecord := ⟨id, localRuntimeId, some .objectsTable⟩

def isNull (r : HandleRecord) : Bool := r.handle == 0

def isLocal (r : HandleRecord) : Bool := r.runtime == localRuntimeId

end HandleRecord

end RuntimeBridge
