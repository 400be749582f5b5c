/-
# Call points

A call point is what one runtime hands to another so that a function can be called: a dispatcher
and the context that it is called with.  A call point of this runtime has one of four dispatchers,
one per call shape, and a context that names the function by its id in the objects table.  The
dispatcher of any other call point is a routine of its own runtime.

Call points are told apart by their address.
-/
import RuntimeBridge.Call.Shape
import RuntimeBridge.Type.Tag
namespace RuntimeBridge

/-- What a dispatcher of this runtime is called with. -/
structure ExportContext where
  /-- Id of the function in the objects table. -/
  handle : Nat
  params : Nat
  retvals : Nat
  deriving DecidableEq, Repr

/-- A dispatcher of another runtime with its context, a number. -/
structure RemoteRoutine where
  name : String
  shape : CallShape
  context : Nat
  deriving DecidableEq, Repr

inductive CallTarget where
  | exported (shape : CallShape) (context : ExportContext)
  | remote (routine : RemoteRoutine)
  deriving DecidableEq, Repr

structure CallPoint where
  address : Nat
  target : CallTarget
  deriving DecidableEq, Repr

/-- The call point was made by this runtime. -/
def CallPoint.isLocal (p : CallPoint) : Bool :=
  match p.target with
  | .exported _ _ => true
  | .remote _ => false

/-- A callable on the wire: its call point, and the tags of its signature. -/
structure CallableRecord where
  point : Option CallPoint
  params : List TypeTag
  retvals : List TypeTag
  deriving DecidableEq, Repr

end RuntimeBridge
