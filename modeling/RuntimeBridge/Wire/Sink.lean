/-
# Sinks: where decoded cells go

Traversal hands each decoded cell to a sink, with the index path of the cell.  A sink keeps a state
of its own and may refuse a value with an error.  Of an array it first gets the shape; it may then
have the elements handed to it one by one, or take the array as a whole.
-/
import RuntimeBridge.Cell.Basic
import RuntimeBridge.Value.Basic
import RuntimeBridge.Error.Basic
namespace RuntimeBridge

/-- The shape of an array cell. -/
structure ArrayShape where
  length : Nat
  dimensions : Int
  /-- The tag that all elements share, or `any`. -/
  commonType : TypeTag
  /-- The type that objects in an array of handles share. -/
  objectType : Option ObjectType
  deriving DecidableEq, Repr

/-- A decoded handle: an object of this runtime, or the record of one elsewhere. -/
inductive DecodedHandle where
  | object (o : Object)
  | foreign (r : HandleRecord)

structure Sink (τ : Type) where
  onNull : IndexPath → τ → Except BridgeError Unit × τ
  onScalar : IndexPath → Scalar → τ → Except BridgeError Unit × τ
  onText : IndexPath → Width → String → τ → Except BridgeError Unit × τ
  onHandle : IndexPath → DecodedHandle → τ → Except BridgeError Unit × τ
  onCallable : IndexPath → Callable → τ → Except BridgeError Unit × τ
  /-- Take an array: `true` asks for its elements, `false` means that nothing more is wanted. -/
  onArray : IndexPath → ArrayShape → List Cell → τ → Except BridgeError Bool × τ
  /-- The type of objects expected in an array of handles; it goes before sampling. -/
  expectedType : IndexPath → τ → Option ObjectType := fun _ _ => none

end RuntimeBridge
